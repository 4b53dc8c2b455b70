import QueryPlan.Value

/-!
# Filters

The conditions of a `WHERE` clause and their truth on a row. Truth has three values: a comparison
with null is neither true nor false, and a row is selected if the filter is true. How a database
compares values, changes their case, trims them and matches patterns is left open (`Engine`).
-/

namespace QueryPlan.Sql
set_option autoImplicit false

/-! ### Three values -/

/-- A truth value; `none` is unknown. -/
abbrev Truth := Option Bool

namespace Truth

/-- True if both are, false if one is. -/
def and : Truth → Truth → Truth
  | some false, _ | _, some false => some false
  | some true, some true => some true
  | _, _ => none

/-- True if one is, false if both are. -/
def or : Truth → Truth → Truth
  | some true, _ | _, some true => some true
  | some false, some false => some false
  | _, _ => none

/-- Unknown stays unknown. -/
def not (t : Truth) : Truth := t.map Bool.not

/-- True if one of the values is. -/
def any (ts : List Truth) : Truth := ts.foldr or (some false)

theorem and_eq_true {s t : Truth} : and s t = some true ↔ s = some true ∧ t = some true := by
  rcases s with _ | _ | _ <;> rcases t with _ | _ | _ <;> simp [and]

theorem and_eq_false {s t : Truth} : and s t = some false ↔ s = some false ∨ t = some false := by
  rcases s with _ | _ | _ <;> rcases t with _ | _ | _ <;> simp [and]

theorem or_eq_true {s t : Truth} : or s t = some true ↔ s = some true ∨ t = some true := by
  rcases s with _ | _ | _ <;> rcases t with _ | _ | _ <;> simp [or]

theorem or_eq_false {s t : Truth} : or s t = some false ↔ s = some false ∧ t = some false := by
  rcases s with _ | _ | _ <;> rcases t with _ | _ | _ <;> simp [or]

theorem not_eq_true {t : Truth} : not t = some true ↔ t = some false := by
  rcases t with _ | _ | _ <;> simp [not]

theorem any_eq_true {ts : List Truth} : any ts = some true ↔ ∃ t ∈ ts, t = some true := by
  induction ts with
  | nil => simp [any]
  | cons t ts ih =>
    have head : any (t :: ts) = some true ↔ t = some true ∨ any ts = some true := or_eq_true
    simp only [head, ih, List.mem_cons, or_and_right, exists_or, exists_eq_left]

theorem any_eq_false {ts : List Truth} : any ts = some false ↔ ∀ t ∈ ts, t = some false := by
  induction ts with
  | nil => simp [any]
  | cons t ts ih =>
    rw [List.forall_mem_cons, ← ih]
    exact or_eq_false

end Truth

/-! ### Values -/

/-- A comparison sign. -/
inductive Comparison where
  | eq
  | ne
  | lt
  | le
  | gt
  | ge
  deriving DecidableEq, Repr

/-- What a database does with values that are not null. -/
structure Engine where
  compare : Comparison → Value → Value → Truth
  lower : Value → Value
  trim : Value → Value
  /-- Matches a value with a pattern in which a character may be an escape. -/
  like : Option String → Value → Value → Truth

/-- The values of a row by column; `none` is null. -/
abbrev Row := String → Option Value

/-- A term for a value. -/
inductive Scalar where
  | column (name : String)
  | param (number : Nat)
  | literal (s : String)
  | lower (a : Scalar)
  | trim (a : Scalar)
  deriving DecidableEq, Repr

/-- The parameter of a number that counts from one. -/
def paramValue (params : List Value) : Nat → Option Value
  | 0 => none
  | index + 1 => params[index]?

/-- The value of a term; `none` is null. -/
@[simp]
def Scalar.value (engine : Engine) (row : Row) (params : List Value) : Scalar → Option Value
  | column name => row name
  | param number => paramValue params number
  | literal s => some (.text s)
  | lower a => (a.value engine row params).map engine.lower
  | trim a => (a.value engine row params).map engine.trim

/-! ### Truth on a row -/

/-- A condition on rows. -/
inductive Filter where
  | compare (op : Comparison) (a b : Scalar)
  | between (a low high : Scalar)
  | isIn (a : Scalar) (items : List Scalar)
  | like (a pattern : Scalar) (escape : Option String)
  | isNull (a : Scalar)
  | not (f : Filter)
  | and (f g : Filter)
  | or (f g : Filter)
  deriving Repr

/-- What is decided about two values, if neither is null. -/
def onValues (decide : Value → Value → Truth) (a b : Option Value) : Truth :=
  a.bind fun a => b.bind fun b => decide a b

@[simp] theorem onValues_some (decide : Value → Value → Truth) (a b : Value) :
    onValues decide (some a) (some b) = decide a b := rfl

@[simp] theorem onValues_none (decide : Value → Value → Truth) (b : Option Value) :
    onValues decide none b = none := rfl

namespace Filter
variable (engine : Engine) (row : Row) (params : List Value)

/-- The truth of a condition on a row. -/
@[simp]
def truth : Filter → Truth
  | compare op a b =>
    onValues (engine.compare op) (a.value engine row params) (b.value engine row params)
  | between a low high =>
    let a := a.value engine row params
    Truth.and (onValues (engine.compare .ge) a (low.value engine row params))
      (onValues (engine.compare .le) a (high.value engine row params))
  | isIn a items =>
    Truth.any (items.map fun item =>
      onValues (engine.compare .eq) (a.value engine row params) (item.value engine row params))
  | like a pattern escape =>
    onValues (engine.like escape) (a.value engine row params) (pattern.value engine row params)
  | isNull a => some (a.value engine row params).isNone
  | not f => Truth.not f.truth
  | and f g => Truth.and f.truth g.truth
  | or f g => Truth.or f.truth g.truth

/-- A row is selected if the condition is true on it. -/
def Selects (f : Filter) : Prop := f.truth engine row params = some true

theorem selects_foldl_and {f : Filter} {fs : List Filter} :
    (fs.foldl and f).Selects engine row params ↔
      ∀ g ∈ f :: fs, g.Selects engine row params := by
  induction fs generalizing f with
  | nil => simp
  | cons g fs ih =>
    rw [List.foldl_cons, ih]
    have first : (f.and g).Selects engine row params ↔
        f.Selects engine row params ∧ g.Selects engine row params := Truth.and_eq_true
    simp only [List.forall_mem_cons, first, and_assoc]

theorem selects_foldl_or {f : Filter} {fs : List Filter} :
    (fs.foldl or f).Selects engine row params ↔
      ∃ g ∈ f :: fs, g.Selects engine row params := by
  induction fs generalizing f with
  | nil => simp
  | cons g fs ih =>
    rw [List.foldl_cons, ih]
    have first : (f.or g).Selects engine row params ↔
        f.Selects engine row params ∨ g.Selects engine row params := Truth.or_eq_true
    simp only [List.mem_cons, or_and_right, exists_or, exists_eq_left, first, or_assoc]

end Filter
end QueryPlan.Sql
