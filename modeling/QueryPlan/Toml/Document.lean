import QueryPlan.Toml.Lexeme

/-!
# TOML documents

A document is a table. Values are given to keys directly, under dotted keys, in inline tables, and
in the sections that headers open. A table is closed to later additions unless it came into being
only as a part of a longer header or dotted key, so every key is given once. Nesting and the number
of parts of a key are bounded by `deepest`. The value of a document is the map of its root table;
`parse?` gives none for a malformed document.
-/

namespace QueryPlan.Toml
set_option autoImplicit false

/-- How a table came into being. -/
inductive Origin where
  /-- As a part of the header of another table. -/
  | implied
  /-- By its own header. -/
  | header
  /-- As a part of a dotted key. -/
  | dotted
  deriving DecidableEq, Repr

/-- What stands under a key while a document is read. -/
inductive Item where
  /-- A finished value. -/
  | value (v : Json)
  /-- A table that may still grow. -/
  | table (origin : Origin) (entries : List (String × Item))
  /-- Tables with the same header in double brackets, oldest first. -/
  | tables (elements : List (List (String × Item)))

/-- What stands under the keys of a table, oldest first. -/
abbrev Entries := List (String × Item)

/-- Changes what stands under a key, or adds it. Nothing results if the change is refused. -/
def alterEntry (key : String) (change : Option Item → Option Item) : Entries → Option Entries
  | [] => (change none).map fun item => [(key, item)]
  | (k, item) :: rest =>
    if k = key then (change (some item)).map fun item => (k, item) :: rest
    else (alterEntry key change rest).map ((k, item) :: ·)

/-- Gives a value to a key that has none. -/
def give (v : Json) : Option Item → Option Item
  | none => some (.value v)
  | some _ => none

/-- Gives a value to a dotted key. The tables on the way must be new or have come into being by
dotted keys; those that a header implied may only be passed through. -/
def assign (v : Json) : List String → Entries → Option Entries
  | [], _ => none
  | [key], entries => alterEntry key (give v) entries
  | key :: rest, entries =>
    alterEntry key (fun item =>
      match item with
      | none => (assign v rest []).map (Item.table .dotted)
      | some (.table .dotted inner) => (assign v rest inner).map (Item.table .dotted)
      | some (.table .implied inner) =>
        if rest.length = 1 then none else (assign v rest inner).map (Item.table .implied)
      | _ => none) entries

/-- Changes the newest of several tables. -/
def alterLast (change : Entries → Option Entries) : List Entries → Option (List Entries)
  | [] => none
  | [entries] => (change entries).map ([·])
  | entries :: rest => (alterLast change rest).map (entries :: ·)

/-- Changes the table under a path of keys. A table that does not exist yet is implied; of several
tables with one header the newest is meant. -/
def alterAt (change : Entries → Option Entries) : List String → Entries → Option Entries
  | [], entries => change entries
  | key :: rest, entries =>
    alterEntry key (fun item =>
      match item with
      | none => (alterAt change rest []).map (Item.table .implied)
      | some (.table origin inner) => (alterAt change rest inner).map (Item.table origin)
      | some (.tables elements) => (alterLast (alterAt change rest) elements).map Item.tables
      | some (.value _) => none) entries

/-- Opens the table of a header: a new one, or one that was only implied so far. -/
def openTable : Option Item → Option Item
  | none => some (.table .header [])
  | some (.table .implied entries) => some (.table .header entries)
  | _ => none

/-- Opens one more table of a header in double brackets. -/
def openElement : Option Item → Option Item
  | none => some (.tables [[]])
  | some (.tables elements) => some (.tables (elements ++ [[]]))
  | _ => none

/-- Opens what stands under a path of keys. -/
def openAt (change : Option Item → Option Item) (path : List String) (root : Entries) :
    Option Entries :=
  match path.getLast? with
  | none => none
  | some key => alterAt (alterEntry key change) path.dropLast root

mutual

/-- The value of an item. -/
def Item.toJson : Item → Json
  | .value v => v
  | .table _ entries => .map (fieldsOf entries)
  | .tables elements => .list (mapsOf elements)

/-- The fields of a table. -/
def fieldsOf : List (String × Item) → List (String × Json)
  | [] => []
  | (key, item) :: rest => (key, item.toJson) :: fieldsOf rest

/-- The values of several tables. -/
def mapsOf : List (List (String × Item)) → List Json
  | [] => []
  | entries :: rest => .map (fieldsOf entries) :: mapsOf rest

end

mutual

/-- A value, with `depth` levels of nesting left. The first argument bounds the recursion. -/
def value? : Nat → Nat → List Char → Option (Json × List Char)
  | 0, _, _ => none
  | fuel + 1, depth, s =>
    match s with
    | '[' :: rest => if depth = 0 then none else items? fuel (depth - 1) [] rest
    | '\x7b' :: rest =>
      if depth = 0 then none
      else match skipSpaces rest with
        | '\x7d' :: rest => some (.map [], rest)
        | rest => fields? fuel (depth - 1) [] rest
    | '\x22' :: _ | '\x27' :: _ =>
      (string? s).map fun (text, rest) => (.text (String.ofList text), rest)
    | _ => bareValue? s

/-- The rest of a list after its opening bracket or a comma. -/
def items? : Nat → Nat → List Json → List Char → Option (Json × List Char)
  | 0, _, _, _ => none
  | fuel + 1, depth, found, s =>
    match skipLines s.length s with
    | ']' :: rest => some (.list found, rest)
    | s =>
      match value? fuel depth s with
      | none => none
      | some (v, rest) =>
        match skipLines rest.length rest with
        | ',' :: rest => items? fuel depth (found ++ [v]) rest
        | ']' :: rest => some (.list (found ++ [v]), rest)
        | _ => none

/-- The rest of an inline table after its opening brace or a comma. It stands on one line and has
no comma at its end. -/
def fields? : Nat → Nat → Entries → List Char → Option (Json × List Char)
  | 0, _, _, _ => none
  | fuel + 1, depth, found, s =>
    match keyPath? s with
    | some (path, '=' :: rest) =>
      match value? fuel depth (skipSpaces rest) with
      | none => none
      | some (v, rest) =>
        match assign v path found with
        | none => none
        | some found =>
          match skipSpaces rest with
          | ',' :: rest => fields? fuel depth found rest
          | '\x7d' :: rest => some (.map (fieldsOf found), rest)
          | _ => none
    | _ => none

end

/-- A value outside of others. -/
def topValue? (s : List Char) : Option (Json × List Char) :=
  value? (2 * s.length + 2) deepest s

/-- A document read up to some line. -/
structure Progress where
  /-- The root table. -/
  root : Entries := []
  /-- The path of the open section. -/
  path : List String := []

/-- Opens the section of a header whose opening brackets were read. -/
def header? (p : Progress) (double : Bool) (s : List Char) : Option (Progress × List Char) := do
  let (path, s) ← keyPath? s
  let s ← Calendar.expect ']' s
  let s ← if double then Calendar.expect ']' s else some s
  let rest ← lineEnd? s
  let root ← openAt (if double then openElement else openTable) path p.root
  some (⟨root, path⟩, rest)

/-- Gives a value to a key of the open section. -/
def assignment? (p : Progress) (s : List Char) : Option (Progress × List Char) := do
  let (path, s) ← keyPath? s
  let s ← Calendar.expect '=' s
  let (v, s) ← topValue? (skipSpaces s)
  let rest ← lineEnd? s
  let root ← alterAt (assign v path) p.path p.root
  some ({ p with root := root }, rest)

/-- The lines of a document, one after the other. The first argument bounds their number. -/
def lines? : Nat → Progress → List Char → Option Progress
  | 0, _, _ => none
  | fuel + 1, p, s =>
    match skipSpaces s with
    | [] => some p
    | '#' :: s =>
      match lineEnd? ('#' :: s) with
      | some rest => lines? fuel p rest
      | none => none
    | '[' :: '[' :: s => (header? p true s).bind fun (p, rest) => lines? fuel p rest
    | '[' :: s => (header? p false s).bind fun (p, rest) => lines? fuel p rest
    | s =>
      match lineBreak? s with
      | some rest => lines? fuel p rest
      | none => (assignment? p s).bind fun (p, rest) => lines? fuel p rest

/-- The value of a document. A byte order mark before it is skipped. -/
def parse? (text : String) : Option Json :=
  let s := match text.toList with
    | '\uFEFF' :: rest => rest
    | s => s
  (lines? (s.length + 1) {} s).map fun p => .map (fieldsOf p.root)

end QueryPlan.Toml
