import QueryPlan.Schema.StorageType

/-!
# Predicate kinds

The operators that a filter key can name. Each kind has a suffix, the shape of the operand it
takes, and the columns it is legal on. Pattern kinds are those with a position and flag kinds those
with an opposite (`shape_eq`, `form_eq_pattern_iff`, `form_eq_flag_iff`). Opposite flags come in
pairs, which are legal on the same columns (`opposite?_opposite?`, `appliesTo_opposite`).
-/

namespace QueryPlan
set_option autoImplicit false

/-- Where a LIKE pattern lets its text stand. -/
inductive PatternPosition where
  | contains
  | startsWith
  | endsWith
  deriving DecidableEq, Repr

/-- The operator of a predicate. -/
inductive PredicateKind where
  | eq
  | notEq
  | iEq
  | lt
  | lte
  | gt
  | gte
  | between
  | notBetween
  | isIn
  | notIn
  | contains
  | startsWith
  | endsWith
  | iContains
  | iStartsWith
  | iEndsWith
  | present
  | blank
  | null
  | notNull
  deriving DecidableEq, Repr

/-- What a kind of predicate takes as its operand. -/
inductive OperandShape where
  /-- One value of the field's type. -/
  | scalar
  /-- One string, which becomes a LIKE pattern. -/
  | pattern
  /-- Exactly two values of the field's type. -/
  | range
  /-- One or more values of the field's type. -/
  | list
  /-- A truth value that selects the kind itself or its opposite. -/
  | flag
  deriving DecidableEq, Repr

/-- The shape of an operand with what a kind adds to it. -/
inductive OperandForm where
  | scalar
  /-- A pattern, with the position that it matches at. -/
  | pattern (position : PatternPosition)
  | range
  | list
  /-- A flag, with the opposite of its kind. -/
  | flag (opposite : PredicateKind)
  deriving DecidableEq, Repr

/-- The shape alone. -/
def OperandForm.shape : OperandForm → OperandShape
  | scalar => .scalar
  | pattern _ => .pattern
  | range => .range
  | list => .list
  | flag _ => .flag

namespace PredicateKind

/-- Every kind, in declaration order. -/
def all : List PredicateKind :=
  [eq, notEq, iEq, lt, lte, gt, gte, between, notBetween, isIn, notIn, contains, startsWith,
   endsWith, iContains, iStartsWith, iEndsWith, present, blank, null, notNull]

theorem mem_all (k : PredicateKind) : k ∈ all := by cases k <;> decide

/-- The end of a filter key that names the kind. -/
def suffix : PredicateKind → String
  | eq => "eq"
  | notEq => "not_eq"
  | iEq => "i_eq"
  | lt => "lt"
  | lte => "lte"
  | gt => "gt"
  | gte => "gte"
  | between => "between"
  | notBetween => "not_between"
  | isIn => "in"
  | notIn => "not_in"
  | contains => "contains"
  | startsWith => "starts_with"
  | endsWith => "ends_with"
  | iContains => "i_contains"
  | iStartsWith => "i_starts_with"
  | iEndsWith => "i_ends_with"
  | present => "present"
  | blank => "blank"
  | null => "null"
  | notNull => "not_null"

/-- The kind of a suffix. -/
def ofSuffix? (suffix : String) : Option PredicateKind := all.find? (·.suffix = suffix)

/-- A kind put before the first one whose suffix is no longer. -/
def insertByLength (k : PredicateKind) : List PredicateKind → List PredicateKind
  | [] => [k]
  | l :: kinds =>
    if l.suffix.length ≤ k.suffix.length then k :: l :: kinds else l :: insertByLength k kinds

/-- Kinds sorted by the length of their suffixes, the longest first. Those of one length stay in
their order. -/
def sortByLength (kinds : List PredicateKind) : List PredicateKind :=
  kinds.foldr insertByLength []

/-- Every kind, those with the longest suffix first and otherwise in declaration order. -/
def longestFirst : List PredicateKind := sortByLength all

theorem mem_insertByLength {k l : PredicateKind} {kinds : List PredicateKind} :
    k ∈ insertByLength l kinds ↔ k = l ∨ k ∈ kinds := by
  induction kinds with
  | nil => simp [insertByLength]
  | cons m kinds ih =>
    unfold insertByLength
    split
    · exact List.mem_cons
    · rw [List.mem_cons, List.mem_cons, ih, or_left_comm]

theorem mem_sortByLength {k : PredicateKind} {kinds : List PredicateKind} :
    k ∈ sortByLength kinds ↔ k ∈ kinds := by
  induction kinds with
  | nil => rfl
  | cons l kinds ih =>
    rw [List.mem_cons, ← ih]
    exact mem_insertByLength

theorem mem_longestFirst (k : PredicateKind) : k ∈ longestFirst := mem_sortByLength.2 (mem_all k)

theorem pairwise_insertByLength {k : PredicateKind} {kinds : List PredicateKind}
    (sorted : kinds.Pairwise fun a b => b.suffix.length ≤ a.suffix.length) :
    (insertByLength k kinds).Pairwise fun a b => b.suffix.length ≤ a.suffix.length := by
  induction kinds with
  | nil => exact List.pairwise_singleton ..
  | cons l kinds ih =>
    obtain ⟨first, rest⟩ := List.pairwise_cons.1 sorted
    unfold insertByLength
    split
    next short =>
      refine List.pairwise_cons.2 ⟨fun m member => ?_, sorted⟩
      obtain rfl | later := List.mem_cons.1 member
      · exact short
      · exact Nat.le_trans (first m later) short
    next long =>
      refine List.pairwise_cons.2 ⟨fun m member => ?_, ih rest⟩
      obtain rfl | later := mem_insertByLength.1 member
      · exact Nat.le_of_not_le long
      · exact first m later

theorem longestFirst_pairwise :
    longestFirst.Pairwise fun a b => b.suffix.length ≤ a.suffix.length := by
  unfold longestFirst
  induction all with
  | nil => exact .nil
  | cons k kinds ih => exact pairwise_insertByLength ih

/-- The operand that a kind takes. -/
def shape : PredicateKind → OperandShape
  | between | notBetween => .range
  | isIn | notIn => .list
  | contains | startsWith | endsWith | iContains | iStartsWith | iEndsWith => .pattern
  | present | blank | null | notNull => .flag
  | _ => .scalar

/-- The position that a pattern kind matches at. -/
def position? : PredicateKind → Option PatternPosition
  | contains | iContains => some .contains
  | startsWith | iStartsWith => some .startsWith
  | endsWith | iEndsWith => some .endsWith
  | _ => none

/-- The opposite of a flag kind. -/
def opposite? : PredicateKind → Option PredicateKind
  | present => some blank
  | blank => some present
  | null => some notNull
  | notNull => some null
  | _ => none

/-- Whether a kind is legal on a column of a storage type that admits null or not. -/
def appliesTo (kind : PredicateKind) (type : StorageType) (nullable : Bool) : Bool :=
  match kind with
  | eq | notEq => true
  | lt | lte | gt | gte | between | notBetween => type.isOrdered
  | isIn | notIn => type != .boolean
  | null | notNull => nullable
  | _ => type.isTextual

/-- What the shape, the position and the opposite of a kind say together. -/
def form (k : PredicateKind) : OperandForm :=
  match k.shape, k.position?, k.opposite? with
  | .range, _, _ => .range
  | .list, _, _ => .list
  | .pattern, some position, _ => .pattern position
  | .flag, _, some opposite => .flag opposite
  | _, _, _ => .scalar

/-- Every pattern kind has a position and every flag kind an opposite, so the form of a kind never
loses its shape. -/
theorem shape_eq (k : PredicateKind) : k.shape = k.form.shape := by cases k <;> rfl

theorem form_eq_pattern_iff {k : PredicateKind} {position : PatternPosition} :
    k.form = .pattern position ↔ k.position? = some position := by
  cases k <;> simp [form, shape, position?, opposite?]

theorem form_eq_flag_iff {k l : PredicateKind} : k.form = .flag l ↔ k.opposite? = some l := by
  cases k <;> simp [form, shape, position?, opposite?]

theorem opposite?_opposite? {k l : PredicateKind} (h : k.opposite? = some l) :
    l.opposite? = some k := by
  revert h
  cases k <;> cases l <;> decide

theorem appliesTo_opposite {k l : PredicateKind} (h : k.opposite? = some l)
    (type : StorageType) (nullable : Bool) :
    l.appliesTo type nullable = k.appliesTo type nullable := by
  revert h
  cases k <;> cases l <;> simp [opposite?, appliesTo]

end PredicateKind

/-- A set of predicate kinds, by its membership test. -/
structure KindSet where
  /-- Whether a kind belongs to the set. -/
  contains : PredicateKind → Bool

namespace KindSet

/-- The set without members. -/
def empty : KindSet := ⟨fun _ => false⟩

/-- The kinds that are legal on a column of a storage type that admits null or not. -/
def ofColumn (type : StorageType) (nullable : Bool) : KindSet :=
  ⟨fun kind => kind.appliesTo type nullable⟩

/-- The set with one more member. -/
def insert (kind : PredicateKind) (s : KindSet) : KindSet := ⟨fun k => k = kind || s.contains k⟩

/-- The members in declaration order. -/
def toList (s : KindSet) : List PredicateKind := PredicateKind.all.filter s.contains

/-- The number of members. -/
def size (s : KindSet) : Nat := s.toList.length

/-- Whether there is no member. -/
def isEmpty (s : KindSet) : Bool := s.toList.isEmpty

@[simp] theorem mem_toList {s : KindSet} {k : PredicateKind} :
    k ∈ s.toList ↔ s.contains k = true := by
  simp [toList, PredicateKind.mem_all]

end KindSet
end QueryPlan
