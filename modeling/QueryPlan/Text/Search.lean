/-!
# Searching in text

Taking a known beginning or end off a text, looking for a word anywhere in it, and replacing every
occurrence of a word. `stripStart?_eq_some_iff` and `stripEnd?_eq_some_iff` say what the two
strippings mean: the text is the part that is left joined to the part that was taken off.
`cutAt_append` says where a text is cut in two.
-/

namespace QueryPlan.Text
set_option autoImplicit false

/-- What follows `start` in a list that begins with it. -/
def afterStart? : List Char → List Char → Option (List Char)
  | [], s => some s
  | _ :: _, [] => none
  | a :: start, c :: s => if a = c then afterStart? start s else none

theorem afterStart?_eq_some_iff {start s rest : List Char} :
    afterStart? start s = some rest ↔ s = start ++ rest := by
  fun_induction afterStart? start s with
  | case1 s => simp
  | case2 => simp
  | case3 start c s ih => simp [ih]
  | case4 a start c s h =>
    simp only [reduceCtorEq, List.cons_append, List.cons.injEq, false_iff, not_and]
    exact fun e => absurd e.symm h

/-- What follows `start` in a text that begins with it. -/
def stripStart? (start s : String) : Option String :=
  (afterStart? start.toList s.toList).map String.ofList

/-- What precedes `tail` in a text that ends with it. -/
def stripEnd? (tail s : String) : Option String :=
  (afterStart? tail.toList.reverse s.toList.reverse).map fun rest => String.ofList rest.reverse

theorem stripStart?_eq_some_iff {start s rest : String} :
    stripStart? start s = some rest ↔ s = start ++ rest := by
  simp only [stripStart?, Option.map_eq_some_iff, afterStart?_eq_some_iff]
  constructor
  · rintro ⟨r, h, rfl⟩
    exact String.toList_inj.1 (by simp [h])
  · rintro rfl
    exact ⟨rest.toList, by simp, by simp⟩

theorem stripEnd?_eq_some_iff {tail s rest : String} :
    stripEnd? tail s = some rest ↔ s = rest ++ tail := by
  simp only [stripEnd?, Option.map_eq_some_iff, afterStart?_eq_some_iff]
  constructor
  · rintro ⟨r, h, rfl⟩
    refine String.toList_inj.1 ?_
    rw [← List.reverse_inj, h]
    simp
  · rintro rfl
    exact ⟨rest.toList.reverse, by simp, by simp⟩

/-- Whether `word` stands somewhere in `s`. -/
def occurs (word : List Char) : List Char → Bool
  | [] => word.isEmpty
  | c :: s => word.isPrefixOf (c :: s) || occurs word s

/-- Every occurrence of `old` replaced by `new`, from the left and without overlaps, after `skip`
characters that belong to an occurrence already replaced. -/
def replaceFrom (old new : List Char) : Nat → List Char → List Char
  | _, [] => []
  | skip + 1, _ :: s => replaceFrom old new skip s
  | 0, c :: s =>
    if old.isPrefixOf (c :: s) then new ++ replaceFrom old new (old.length - 1) s
    else c :: replaceFrom old new 0 s

/-- Every occurrence of the non-empty word `old` replaced by `new`. -/
def replaceAll (old new s : List Char) : List Char := replaceFrom old new 0 s

/-- A text with its ASCII capitals lowered and every other character kept. The kelvin sign is the
only other character whose lower case is an ASCII letter, so this is enough to recognize a word
without a `k` in any case. -/
def lower (s : String) : String := String.ofList (s.toList.map Char.toLower)

/-- The part before the first `sep` and, if there is one, the part after it. -/
def cutAt (sep : Char) (s : List Char) : List Char × Option (List Char) :=
  match s.dropWhile (· != sep) with
  | [] => (s, none)
  | _ :: rest => (s.takeWhile (· != sep), some rest)

/-- Every character of a text without `sep` differs from it. -/
theorem bne_of_notMem {sep : Char} {s : List Char} (absent : sep ∉ s) :
    ∀ c ∈ s, (c != sep) = true := by
  intro c member
  simpa using fun same : c = sep => absent (same ▸ member)

theorem cutAt_append {sep : Char} {s rest : List Char} (fresh : sep ∉ s) :
    cutAt sep (s ++ sep :: rest) = (s, some rest) := by
  have other := bne_of_notMem fresh
  simp [cutAt, List.dropWhile_append_of_pos other, List.takeWhile_append_of_pos other]

theorem cutAt_of_notMem {sep : Char} {s : List Char} (absent : sep ∉ s) :
    cutAt sep s = (s, none) := by
  have dropped : (s ++ []).dropWhile (· != sep) = [] :=
    List.dropWhile_append_of_pos (bne_of_notMem absent)
  rw [List.append_nil] at dropped
  rw [cutAt, dropped]

end QueryPlan.Text
