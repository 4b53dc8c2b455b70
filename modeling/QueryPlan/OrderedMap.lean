/-!
# Ordered maps

Finite maps from strings that remember the order in which their keys were first inserted. Inserting
a key again replaces its value and keeps its place. `get?_insert` and `keys_insert` say what an
insertion does to the two views, looking up and listing.
-/

namespace QueryPlan
set_option autoImplicit false

/-- A list of entries with the value of a key replaced, or with a new entry at the end. -/
def insertEntry {α : Type} (key : String) (value : α) : List (String × α) → List (String × α)
  | [] => [(key, value)]
  | entry :: rest =>
    if entry.1 = key then (key, value) :: rest else entry :: insertEntry key value rest

theorem mem_keys_insertEntry {α : Type} {key k : String} {value : α} {entries : List (String × α)} :
    k ∈ (insertEntry key value entries).map Prod.fst ↔ k = key ∨ k ∈ entries.map Prod.fst := by
  induction entries with
  | nil => simp [insertEntry]
  | cons entry rest ih =>
    by_cases h : entry.1 = key
    · simp [insertEntry, h]
    · simp only [insertEntry, h, if_false, List.map_cons, List.mem_cons, ih]
      grind

theorem nodup_insertEntry {α : Type} {key : String} {value : α} {entries : List (String × α)}
    (h : (entries.map Prod.fst).Nodup) :
    ((insertEntry key value entries).map Prod.fst).Nodup := by
  induction entries with
  | nil => simp [insertEntry]
  | cons entry rest ih =>
    simp only [List.map_cons, List.nodup_cons] at h
    by_cases e : entry.1 = key
    · simpa [insertEntry, e] using ⟨by simpa [e] using h.1, h.2⟩
    · simp only [insertEntry, e, if_false, List.map_cons, List.nodup_cons]
      refine ⟨fun m => ?_, ih h.2⟩
      rcases mem_keys_insertEntry.1 m with m | m
      · exact e m
      · exact h.1 m

/-- A finite map from strings in the order of first insertion. -/
structure OrderedMap (α : Type) where
  /-- The entries, oldest first. -/
  entries : List (String × α)
  /-- No key has two entries. -/
  nodup : (entries.map Prod.fst).Nodup

namespace OrderedMap
variable {α : Type}

/-- The map without entries. -/
def empty : OrderedMap α := ⟨[], by simp⟩

/-- The value of a key. -/
def get? (m : OrderedMap α) (key : String) : Option α := m.entries.lookup key

/-- Whether a key has a value. -/
def contains (m : OrderedMap α) (key : String) : Bool := (m.get? key).isSome

/-- The map with the value of a key set. -/
def insert (m : OrderedMap α) (key : String) (value : α) : OrderedMap α :=
  ⟨insertEntry key value m.entries, nodup_insertEntry m.nodup⟩

/-- The keys, oldest first. -/
def keys (m : OrderedMap α) : List String := m.entries.map Prod.fst

/-- The values in the order of their keys. -/
def values (m : OrderedMap α) : List α := m.entries.map Prod.snd

/-- The number of entries. -/
def size (m : OrderedMap α) : Nat := m.entries.length

/-- The map of a list of entries, in which later entries override earlier ones in place. -/
def ofList (entries : List (String × α)) : OrderedMap α :=
  entries.foldl (fun m entry => m.insert entry.1 entry.2) empty

@[simp] theorem get?_empty (key : String) : (empty : OrderedMap α).get? key = none := rfl

theorem lookup_insertEntry {key k : String} {value : α} {entries : List (String × α)} :
    (insertEntry key value entries).lookup k =
      if k = key then some value else entries.lookup k := by
  induction entries with
  | nil =>
    by_cases h : k = key
    · simp [insertEntry, h]
    · simp [insertEntry, List.lookup_cons, h, beq_false_of_ne h]
  | cons entry rest ih =>
    obtain ⟨a, v⟩ := entry
    by_cases e : a = key
    · subst e
      by_cases h : k = a
      · simp [insertEntry, h]
      · simp [insertEntry, List.lookup_cons, h, beq_false_of_ne h]
    · by_cases h : k = a
      · subst h
        simp [insertEntry, e]
      · simp [insertEntry, e, List.lookup_cons, beq_false_of_ne h, ih]

theorem get?_insert (m : OrderedMap α) (key k : String) (value : α) :
    (m.insert key value).get? k = if k = key then some value else m.get? k :=
  lookup_insertEntry

theorem keys_insertEntry {key : String} {value : α} {entries : List (String × α)} :
    (insertEntry key value entries).map Prod.fst =
      if key ∈ entries.map Prod.fst then entries.map Prod.fst
      else entries.map Prod.fst ++ [key] := by
  induction entries with
  | nil => simp [insertEntry]
  | cons entry rest ih =>
    by_cases e : entry.1 = key
    · simp [insertEntry, e]
    · have e' : ¬ key = entry.1 := fun h => e h.symm
      simp only [insertEntry, e, if_false, List.map_cons, ih, List.mem_cons, e', false_or]
      split <;> rfl

theorem keys_insert (m : OrderedMap α) (key : String) (value : α) :
    (m.insert key value).keys = if key ∈ m.keys then m.keys else m.keys ++ [key] :=
  keys_insertEntry

end OrderedMap
end QueryPlan
