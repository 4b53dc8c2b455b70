import QueryPlan.Error
import QueryPlan.Request.Basic
import QueryPlan.Text.Blank

/-!
# Request envelopes

A whole request as one map with the keys `filters`, `or`, `sort`, `page` and `per_page`, all of
them optional and no others. A permitted envelope permits the maps in it.
-/

namespace QueryPlan.Request
set_option autoImplicit false
open Number

/-- The keys that an envelope may have. -/
def envelopeKeys : List String := ["filters", "or", "sort", "page", "per_page"]

/-- The error of a fault in the shape of a request. -/
def shapeError (fault : ShapeFault) : QueryError := (Cause.requestShape fault).toError

/-- The sort keys of a comma-separated text: its parts without outer blanks, empty ones left
out. -/
def sortKeysOfText (s : String) : List String :=
  (((s.toList.splitOn ',').map Text.trimChars).filter fun part => !part.isEmpty).map String.ofList

/-- The sort keys of a list of strings, without outer blanks. -/
def sortKeysOfItems (key : String) (items : List Json) : Except QueryError (List String) :=
  items.mapM fun item =>
    match item with
    | .text s => .ok (Text.trim s)
    | v => .error (shapeError (.sortKeyNotText key v.kind))

/-- The sort keys under an envelope key. -/
def sortKeys (key : String) (v : Json) : Except QueryError (List String) :=
  match v with
  | .null => .ok []
  | .text s => .ok (sortKeysOfText s)
  | .list items => sortKeysOfItems key items
  | v => .error (shapeError (.sortNotList key v.kind))

/-- The signed word nearest to the integer that a text denotes: a numeral that is one, the end of
the range towards which the sign of any other numeral points, or a decimal whose nearest
floating-point number is an integer. -/
def wordOfText? (s : List Char) : Option Int :=
  match signedWord? s with
  | some n => some n
  | none =>
    let (negative, digits) := splitSign s
    if !digits.isEmpty && digits.all Char.isDigit then
      some (if negative then minSigned else maxSigned)
    else ((finite? s).bind Binary64.whole?).map saturate

/-- The signed word nearest to the integer that a value denotes. -/
def word? : Json → Option Int
  | .int n => some (saturate n)
  | .float x => x.whole?.map saturate
  | .text s => wordOfText? (Text.trimChars s.toList)
  | _ => none

/-- The integer under an envelope key; null stands for none. -/
def integerField (key : String) (v : Json) : Except QueryError (Option Int) :=
  match v with
  | .null => .ok none
  | v =>
    match word? v with
    | some n => .ok (some n)
    | none => .error (shapeError (.notInteger key v))

/-- The OR-groups under an envelope key. -/
def groupItems (key : String) (v : Json) : Except QueryError (List Json) :=
  match v with
  | .list items => .ok items
  | v => .error (shapeError (.groupsNotList key v.kind))

/-- A request with one field of an envelope added. -/
def addField (permission : Permission) (r : Request) (field : String × Json) :
    Except QueryError Request :=
  let (key, v) := field
  match key with
  | "filters" => .ok (r.addFilters ⟨v, permission⟩)
  | "or" => do
    let items ← groupItems key v
    .ok { r with groups := r.groups ++ items.map fun item => ⟨item, permission⟩ }
  | "sort" => do
    let sort ← sortKeys key v
    .ok { r with sort := sort }
  | "page" => do
    let page ← integerField key v
    .ok { r with page := page }
  | "per_page" => do
    let perPage ← integerField key v
    .ok { r with perPage := perPage }
  | _ => .error (shapeError (.unexpectedKey key envelopeKeys))

/-- The request of an envelope; the first field at fault gives the error. -/
def ofEnvelope (input : Input) : Except QueryError Request :=
  if input.permission.allowsUse then
    match input.value with
    | .map fields => fields.foldlM (addField input.permission) {}
    | v => .error (shapeError (.envelopeNotMap v.kind))
  else .error (Cause.unpermitted "request parameters").toError

end QueryPlan.Request
