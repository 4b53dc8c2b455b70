import Mathlib.Data.List.Infix
import Mathlib.Data.List.TakeWhile
import QueryPlan.Settings.Environment

/-!
# Substituting at once

The references of a text stand side by side: there is one way to cut a text into references and
single characters from the left (`Cut`), and putting the values of variables in place of the
references at once is to write each part on its own (`rendered`). Expansion puts them in one after
the other instead, and each time into the whole text as it stands by then. As long as no reference
that is replaced stands inside another one (`Apart`), both give the same text in whatever order the
references are replaced and however often, just if no such reference comes up in the text that is
written at once (`Settled`, `expand_at_once`). Otherwise a value may be expanded again, and the
order of the references decides what comes out (`value_expanded_again`).
-/

namespace QueryPlan.Settings
set_option autoImplicit false

variable {name m n s rest : List Char}

/-! ### References -/

/-- What a reference can name. -/
structure IsName (name : List Char) : Prop where
  nonempty : name ≠ []
  unclosed : '\x7d' ∉ name

theorem takeWhile_name (unclosed : '\x7d' ∉ name) (rest : List Char) :
    (name ++ '\x7d' :: rest).takeWhile (· != '\x7d') = name := by
  rw [List.takeWhile_append_of_pos]
  · simp
  · intro c member
    simpa using fun same : c = '\x7d' => unclosed (same ▸ member)

/-- The reference that starts a text is the one up to the first closing brace. -/
theorem referenceAt?_eq_some_iff :
    referenceAt? s = some name ↔ IsName name ∧ reference name <+: s := by
  constructor
  · intro found
    unfold referenceAt? at found
    split at found
    · next tail =>
      by_cases closed : '\x7d' ∈ tail
      · obtain ⟨taken, rest, rfl, unclosed⟩ := List.eq_append_cons_of_mem closed
        simp only [takeWhile_name unclosed, Option.ite_none_left_eq_some, Bool.or_eq_true,
          List.isEmpty_iff, not_or, Option.some.injEq] at found
        obtain ⟨⟨nonempty, -⟩, rfl⟩ := found
        exact ⟨⟨nonempty, unclosed⟩, rest, by simp [reference]⟩
      · have all : tail.takeWhile (· != '\x7d') = tail := by
          rw [List.takeWhile_eq_self_iff]
          intro c member
          simpa using fun same : c = '\x7d' => closed (same ▸ member)
        simp [all] at found
    · cases found
  · rintro ⟨isName, rest, rfl⟩
    have taken := takeWhile_name isName.unclosed rest
    simp [reference, referenceAt?, taken, isName.nonempty]

theorem reference_ne_nil (name : List Char) : reference name ≠ [] := List.cons_ne_nil _ _

/-- A reference has its closing brace at its end alone. -/
theorem eq_reference_of_start {l : List Char} (isName : IsName n) (start : l <+: reference n)
    (closed : '\x7d' ∈ l) : l = reference n := by
  obtain ⟨tail, whole⟩ := start
  rcases tail.eq_nil_or_concat with rfl | ⟨tail, c, rfl⟩
  · simpa using whole
  · rw [List.concat_eq_append, reference, ← List.append_assoc, ← List.cons_append,
      ← List.cons_append] at whole
    obtain ⟨body, -⟩ := List.append_inj' whole rfl
    have inside : '\x7d' ∈ '$' :: '\x7b' :: n := body ▸ List.mem_append_left _ closed
    simp [isName.unclosed] at inside

theorem brace_mem_of_suffix {l : List Char} (tail : l <:+ reference n) (nonempty : l ≠ []) :
    '\x7d' ∈ l := by
  have last := tail.getLast nonempty
  have brace : (reference n).getLast (reference_ne_nil n) = '\x7d' := by simp [reference]
  exact (last.trans brace) ▸ List.getLast_mem nonempty

/-! ### Cutting a text at its references -/

/-- A character on its own or a reference. -/
inductive Part where
  | plain (c : Char)
  | named (name : List Char)
deriving DecidableEq

/-- The parts of a text: from the left, each reference that does not overlap one before it, and the
characters around them. -/
inductive Cut : List Char → List Part → Prop where
  | nil : Cut [] []
  | named {name s : List Char} {parts : List Part} :
      IsName name → Cut s parts → Cut (reference name ++ s) (.named name :: parts)
  | plain {c : Char} {s : List Char} {parts : List Part} :
      (∀ name, IsName name → ¬ reference name <+: c :: s) → Cut s parts →
      Cut (c :: s) (.plain c :: parts)

/-- The names that the parts of a text refer to. -/
def names : List Part → List (List Char)
  | [] => []
  | .plain _ :: parts => names parts
  | .named name :: parts => name :: names parts

theorem namesFrom_append (taken s : List Char) :
    namesFrom taken.length (taken ++ s) = namesFrom 0 s := by
  induction taken with
  | nil => rfl
  | cons c taken ih => simpa [namesFrom] using ih

theorem namesFrom_cut {parts : List Part} (cut : Cut s parts) : namesFrom 0 s = names parts := by
  induction cut with
  | nil => rfl
  | @named name s parts isName cut ih =>
    have found : referenceAt? (reference name ++ s) = some name :=
      referenceAt?_eq_some_iff.2 ⟨isName, List.prefix_append _ _⟩
    have skipped := namesFrom_append ('\x7b' :: (name ++ ['\x7d'])) s
    simp only [reference, List.cons_append] at found
    simp only [reference, List.cons_append, namesFrom, found, names]
    rw [← ih, ← skipped]
    rfl
  | @plain c s parts none cut ih =>
    have absent : referenceAt? (c :: s) = Option.none :=
      Option.eq_none_iff_forall_ne_some.2 fun name found =>
        have ⟨isName, start⟩ := referenceAt?_eq_some_iff.1 found
        none name isName start
    simpa only [namesFrom, absent, names] using ih

theorem length_lt_reference_append (name s : List Char) :
    s.length < (reference name ++ s).length := by
  simp only [reference, List.length_append, List.length_cons]
  omega

theorem exists_cut (s : List Char) : ∃ parts, Cut s parts := by
  induction h : s.length using Nat.strong_induction_on generalizing s with
  | _ length ih =>
    subst h
    cases s with
    | nil => exact ⟨[], .nil⟩
    | cons c s =>
      by_cases found : ∃ name, IsName name ∧ reference name <+: c :: s
      · obtain ⟨name, isName, rest, whole⟩ := found
        rw [← whole]
        have shorter := whole ▸ length_lt_reference_append name rest
        obtain ⟨parts, cut⟩ := ih _ shorter rest rfl
        exact ⟨.named name :: parts, .named isName cut⟩
      · obtain ⟨parts, cut⟩ := ih s.length (Nat.lt_succ_self _) s rfl
        exact ⟨.plain c :: parts, .plain (fun name isName start => found ⟨name, isName, start⟩) cut⟩

/-- Of two references that start a text, neither goes on where the other ends. -/
theorem name_unique (isName : IsName m) (isName' : IsName n) (start : reference m <+: s)
    (start' : reference n <+: s) : m = n :=
  Option.some.inj <| (referenceAt?_eq_some_iff.2 ⟨isName, start⟩).symm.trans
    (referenceAt?_eq_some_iff.2 ⟨isName', start'⟩)

theorem Cut.unique {parts others : List Part} (cut : Cut s parts) (other : Cut s others) :
    parts = others := by
  induction cut generalizing others with
  | nil =>
    generalize nothing : ([] : List Char) = l at other
    cases other with
    | nil => rfl
    | named isName rest => simp [reference] at nothing
    | plain none rest => cases nothing
  | @named name s parts isName cut ih =>
    generalize whole : reference name ++ s = l at other
    cases other with
    | nil => simp [reference] at whole
    | @named name' s' others isName' other =>
      obtain rfl := name_unique isName isName' ⟨s, whole⟩ (List.prefix_append _ _)
      rw [ih (List.append_cancel_left whole ▸ other)]
    | plain none other => exact absurd ⟨s, whole⟩ (none name isName)
  | @plain c s parts none cut ih =>
    generalize whole : c :: s = l at other
    cases other with
    | nil => cases whole
    | @named name' s' others isName' other =>
      exact absurd (whole ▸ List.prefix_append _ _) (none name' isName')
    | plain none' other =>
      cases whole
      rw [ih other]

/-! ### Writing the parts -/

/-- The text of a part where variables have values. -/
def Part.text (value : List Char → Option (List Char)) : Part → List Char
  | .plain c => [c]
  | .named name => (value name).getD (reference name)

/-- The parts of a text with all references to variables that have a value replaced at once. -/
def rendered (value : List Char → Option (List Char)) (parts : List Part) : List Char :=
  parts.flatMap (Part.text value)

@[simp] theorem rendered_nil (value : List Char → Option (List Char)) : rendered value [] = [] :=
  rfl

@[simp] theorem rendered_cons (value : List Char → Option (List Char)) (part : Part)
    (parts : List Part) :
    rendered value (part :: parts) = part.text value ++ rendered value parts :=
  List.flatMap_cons

theorem rendered_none {parts : List Part} (cut : Cut s parts) :
    rendered (fun _ => none) parts = s := by
  induction cut with
  | nil => rfl
  | named isName cut ih => simp [Part.text, ih]
  | plain none cut ih => simp [Part.text, ih]

theorem rendered_congr {value other : List Char → Option (List Char)}
    (same : ∀ n, Part.text value (.named n) = Part.text other (.named n)) (parts : List Part) :
    rendered value parts = rendered other parts := by
  refine List.flatMap_congr fun part _ => ?_
  cases part with
  | plain c => rfl
  | named n => exact same n

/-! ### Replacing a word -/

section
open Text
variable {old new : List Char}

theorem replaceFrom_append (taken s : List Char) :
    replaceFrom old new taken.length (taken ++ s) = replaceFrom old new 0 s := by
  induction taken with
  | nil => rfl
  | cons c taken ih => simpa [replaceFrom] using ih

theorem replaceAll_append_self (nonempty : old ≠ []) (s : List Char) :
    replaceAll old new (old ++ s) = new ++ replaceAll old new s := by
  obtain ⟨c, tail, rfl⟩ := List.exists_cons_of_ne_nil nonempty
  have here : (c :: tail).isPrefixOf (c :: (tail ++ s)) = true :=
    List.isPrefixOf_iff_prefix.2 (List.prefix_append (c :: tail) s)
  simp [replaceAll, replaceFrom, here, replaceFrom_append]

theorem replaceAll_cons {c : Char} (absent : ¬ old <+: c :: s) :
    replaceAll old new (c :: s) = c :: replaceAll old new s := by
  have here : old.isPrefixOf (c :: s) = false := by
    rw [Bool.eq_false_iff, Ne, List.isPrefixOf_iff_prefix]
    exact absent
  simp [replaceAll, replaceFrom, here]

/-- A part in which no occurrence of the word starts is kept. -/
theorem replaceAll_append {l : List Char}
    (absent : ∀ x, x <:+ l → x ≠ [] → ¬ old <+: x ++ s) :
    replaceAll old new (l ++ s) = l ++ replaceAll old new s := by
  induction l with
  | nil => rfl
  | cons c l ih =>
    have here := absent (c :: l) List.suffix_rfl (List.cons_ne_nil c l)
    rw [List.cons_append] at here
    rw [List.cons_append, replaceAll_cons here,
      ih fun x tail => absent x (tail.trans (List.suffix_cons c l)), List.cons_append]

/-- Induction along the occurrences of a word. -/
theorem occurrences_induction (nonempty : old ≠ []) {motive : List Char → Prop}
    (nil : motive []) (here : ∀ s, motive s → motive (old ++ s))
    (later : ∀ c s, ¬ old <+: c :: s → motive s → motive (c :: s)) (s : List Char) : motive s := by
  induction length : s.length using Nat.strong_induction_on generalizing s with
  | _ n ih =>
    subst length
    cases s with
    | nil => exact nil
    | cons c s =>
      by_cases start : old <+: c :: s
      · obtain ⟨rest, whole⟩ := start
        rw [← whole]
        refine here rest (ih rest.length ?_ rest rfl)
        have positive := List.length_pos_iff.2 nonempty
        rw [← whole, List.length_append]
        omega
      · exact later c s start (ih s.length (Nat.lt_succ_self _) s rfl)

theorem replaceAll_self (nonempty : old ≠ []) (s : List Char) : replaceAll old old s = s := by
  induction s using occurrences_induction nonempty with
  | nil => rfl
  | here s ih => rw [replaceAll_append_self nonempty, ih]
  | later c s absent ih => rw [replaceAll_cons absent, ih]

theorem length_replaceAll_le (nonempty : old ≠ []) (shorter : new.length ≤ old.length)
    (s : List Char) : (replaceAll old new s).length ≤ s.length := by
  induction s using occurrences_induction nonempty with
  | nil => exact Nat.le_refl _
  | here s ih =>
    rw [replaceAll_append_self nonempty, List.length_append, List.length_append]
    omega
  | later c s absent ih =>
    rw [replaceAll_cons absent]
    exact Nat.succ_le_succ ih

theorem le_length_replaceAll (nonempty : old ≠ []) (longer : old.length ≤ new.length)
    (s : List Char) : s.length ≤ (replaceAll old new s).length := by
  induction s using occurrences_induction nonempty with
  | nil => exact Nat.le_refl _
  | here s ih =>
    rw [replaceAll_append_self nonempty, List.length_append, List.length_append]
    omega
  | later c s absent ih =>
    rw [replaceAll_cons absent]
    exact Nat.succ_le_succ ih

/-- Replacing a word that occurs changes the text unless the word is replaced by itself. -/
theorem eq_of_replaceAll_eq (nonempty : old ≠ []) (same : replaceAll old new s = s)
    (inside : old <:+: s) : new = old := by
  induction s using occurrences_induction nonempty with
  | nil => exact absurd (List.infix_nil.1 inside) nonempty
  | here s ih =>
    rw [replaceAll_append_self nonempty] at same
    have lengths := congrArg List.length same
    rw [List.length_append, List.length_append] at lengths
    have length : new.length = old.length := by
      rcases Nat.le_total new.length old.length with shorter | longer
      · have rest := length_replaceAll_le nonempty shorter s
        omega
      · have rest := le_length_replaceAll nonempty longer s
        omega
    exact (List.append_inj same length).1
  | later c s absent ih =>
    rw [replaceAll_cons absent] at same
    exact ih (List.cons.inj same).2 ((List.infix_cons_iff.1 inside).resolve_left absent)

end

/-! ### One reference after the other -/

section
variable {value known : List Char → Option (List Char)} {parts : List Part}

/-- Whether another text is put in place of the reference to a name. -/
def Replaced (value : List Char → Option (List Char)) (n : List Char) : Prop :=
  Part.text value (.named n) ≠ reference n

/-- Whether no reference that is replaced stands inside the reference to another name. -/
def Apart (value : List Char → Option (List Char)) (parts : List Part) : Prop :=
  ∀ m ∈ names parts, ∀ n ∈ names parts, Replaced value m → Replaced value n →
    reference m <:+: reference n → m = n

/-- Whether no reference that is replaced comes up where all of them are replaced at once. -/
def Settled (value : List Char → Option (List Char)) (parts : List Part) : Prop :=
  ∀ n ∈ names parts, Replaced value n → ¬ reference n <:+: rendered value parts

/-- What is the same for the parts of a text and for those behind any of them: the reference to a
name keeps apart from the others. -/
structure Alone (value : List Char → Option (List Char)) (n : List Char) (parts : List Part) :
    Prop where
  isName : IsName n
  isNames {m : List Char} : m ∈ names parts → IsName m
  holds_none {m : List Char} : m ∈ names parts → Replaced value m → reference m <:+: reference n →
    m = n
  in_none {m : List Char} : m ∈ names parts → Replaced value m → reference n <:+: reference m →
    n = m
  settled : ¬ reference n <:+: rendered value parts

theorem names_subset_cons (part : Part) (parts : List Part) :
    names parts ⊆ names (part :: parts) := by
  cases part with
  | plain c => exact List.Subset.refl _
  | named name => exact List.subset_cons_self _ _

theorem Alone.tail {part : Part} (h : Alone value n (part :: parts)) : Alone value n parts where
  isName := h.isName
  isNames member := h.isNames (names_subset_cons part parts member)
  holds_none member := h.holds_none (names_subset_cons part parts member)
  in_none member := h.in_none (names_subset_cons part parts member)
  settled inside := h.settled (inside.trans (List.suffix_append _ _).isInfix)

theorem Cut.isName (cut : Cut s parts) : ∀ {m}, m ∈ names parts → IsName m := by
  induction cut with
  | nil => exact fun member => nomatch member
  | named isName cut ih =>
    intro m member
    rcases List.mem_cons.1 member with rfl | member
    · exact isName
    · exact ih member
  | plain none cut ih => exact ih

theorem Apart.alone (apart : Apart value parts) (settled : Settled value parts) (cut : Cut s parts)
    (member : n ∈ names parts) (replaced : Replaced value n) : Alone value n parts where
  isName := cut.isName member
  isNames := cut.isName
  holds_none member' replaced' := apart _ member' _ member replaced' replaced
  in_none member' replaced' := apart _ member _ member' replaced replaced'
  settled := settled n member replaced

/-- Where only some variables are known, a part is written as in the end unless it is a reference
that is still to be replaced. -/
theorem Part.text_cases (restricts : ∀ m, known m = none ∨ known m = value m) (part : Part) :
    part.text known = part.text value ∨
      ∃ m, part = .named m ∧ part.text known = reference m ∧ Replaced value m := by
  cases part with
  | plain c => exact .inl rfl
  | named m =>
    rcases restricts m with unknown | same
    · have kept : Part.text known (.named m) = reference m := by
        rw [text, unknown, Option.getD_none]
      by_cases final : Part.text value (.named m) = reference m
      · exact .inl (kept.trans final.symm)
      · exact .inr ⟨m, rfl, kept, final⟩
    · exact .inl (by rw [text, text, same])

/-- An occurrence of a reference that starts before another reference ends before it. -/
theorem prefix_of_prefix_append_reference {y : List Char} (isName : IsName m) (isName' : IsName n)
    (outside : reference m <:+: reference n → m = n) (nonempty : y ≠ [])
    (start : reference n <+: y ++ (reference m ++ rest)) : reference n <+: y := by
  have proper {l : List Char} (whole : l ++ reference m = reference n) : l = [] := by
    obtain rfl := outside ⟨l, [], by simpa using whole⟩
    simpa using whole
  have within : reference n <+: y ++ reference m := by
    rw [← List.append_assoc] at start
    rcases List.prefix_or_prefix_of_prefix start (List.prefix_append _ rest) with short | long
    · exact short
    · have closed := brace_mem_of_suffix (List.suffix_rfl (l := reference m)) (reference_ne_nil m)
      rw [eq_reference_of_start isName' long (List.mem_append_right y closed)]
  rcases List.prefix_or_prefix_of_prefix within (List.prefix_append y _) with short | ⟨z, whole⟩
  · exact short
  · rw [← whole, List.prefix_append_right_inj] at within
    by_cases ends : z = []
    · exact ⟨[], by simpa [ends] using whole.symm⟩
    · have closed := brace_mem_of_suffix ⟨y, whole⟩ ends
      rw [eq_reference_of_start isName within closed] at whole
      exact absurd (proper whole) nonempty

/-- So an occurrence that starts in what is written as in the end is one in the text of the end. -/
theorem Alone.prefix_rendered (alone : Alone value n parts)
    (restricts : ∀ m, known m = none ∨ known m = value m) {y : List Char} (nonempty : y ≠ [])
    (start : reference n <+: y ++ rendered known parts) :
    reference n <+: y ++ rendered value parts := by
  induction parts generalizing y with
  | nil => exact start
  | cons part parts ih =>
    rw [rendered_cons] at start ⊢
    rcases part.text_cases restricts with final | ⟨m, rfl, kept, replaced⟩
    · rw [final, ← List.append_assoc] at start
      rw [← List.append_assoc]
      exact ih alone.tail (List.append_ne_nil_of_left_ne_nil nonempty _) start
    · have member : m ∈ names (.named m :: parts) := List.mem_cons_self
      rw [kept] at start
      exact (prefix_of_prefix_append_reference (alone.isNames member) alone.isName
        (alone.holds_none member replaced) nonempty start).trans (List.prefix_append _ _)

/-- No occurrence of a reference starts inside another reference. -/
theorem not_prefix_of_suffix {x : List Char} (isName : IsName n)
    (outside : ¬ reference n <:+: reference m) (tail : x <:+ reference m) (nonempty : x ≠ []) :
    ¬ reference n <+: x ++ rest := by
  intro start
  rcases List.prefix_or_prefix_of_prefix start (List.prefix_append x rest) with short | long
  · exact outside (short.isInfix.trans tail.isInfix)
  · rw [eq_reference_of_start isName long (brace_mem_of_suffix tail nonempty)] at tail
    exact outside tail.isInfix

theorem Part.text_update_self (w : List Char) :
    Part.text (Function.update known n (some w)) (.named n) = w := by
  rw [text, Function.update_self, Option.getD_some]

theorem Part.text_update_of_ne {part : Part} (other : part ≠ .named n)
    (v : Option (List Char)) : part.text (Function.update known n v) = part.text known := by
  cases part with
  | plain c => rfl
  | named m =>
    have different : m ≠ n := fun same => other (congrArg Part.named same)
    rw [text, text, Function.update_of_ne different]

/-- Replacing one more reference makes its variable known. -/
theorem Alone.replaceAll_rendered (alone : Alone value n parts)
    (restricts : ∀ m, known m = none ∨ known m = value m) {w : List Char} (set : value n = some w) :
    Text.replaceAll (reference n) w (rendered known parts) =
      rendered (Function.update known n (some w)) parts := by
  induction parts with
  | nil => rfl
  | cons part parts ih =>
    rw [rendered_cons, rendered_cons, ← ih alone.tail]
    rcases part.text_cases restricts with final | ⟨m, rfl, written, replaced⟩
    · have kept : part.text (Function.update known n (some w)) = part.text known := by
        by_cases same : part = .named n
        · rw [final, same, Part.text_update_self, Part.text, set, Option.getD_some]
        · exact Part.text_update_of_ne same _
      rw [kept]
      refine replaceAll_append fun x tail nonempty start => ?_
      -- The occurrence would be one in the text of the end, behind the start of this part.
      have inside := (alone.tail.prefix_rendered restricts nonempty start).isInfix
      obtain ⟨before, whole⟩ := tail
      refine alone.settled (inside.trans ⟨before, [], ?_⟩)
      rw [rendered_cons, ← final, ← whole, List.append_nil, List.append_assoc]
    · have member : m ∈ names (.named m :: parts) := List.mem_cons_self
      rw [written]
      by_cases same : m = n
      · subst same
        rw [replaceAll_append_self (reference_ne_nil m), Part.text_update_self]
      · have outside : ¬ reference n <:+: reference m := fun inside =>
          same (alone.in_none member replaced inside).symm
        rw [Part.text_update_of_ne (fun named => same (Part.named.inj named)), written]
        exact replaceAll_append fun x tail nonempty =>
          not_prefix_of_suffix alone.isName outside tail nonempty

/-- The values of the variables that are among those named. -/
def among (value : List Char → Option (List Char)) (done : List (List Char)) (m : List Char) :
    Option (List Char) :=
  if m ∈ done then value m else none

theorem among_cases (value : List Char → Option (List Char)) (done : List (List Char))
    (m : List Char) : among value done m = none ∨ among value done m = value m := by
  unfold among
  split
  · exact .inr rfl
  · exact .inl rfl

theorem among_cons (value : List Char → Option (List Char)) (done : List (List Char))
    (n : List Char) : among value (n :: done) = Function.update (among value done) n (value n) := by
  funext m
  by_cases same : m = n
  · subst same
    simp [among]
  · simp [among, same]

theorem rendered_among {done : List (List Char)} (all : ∀ m ∈ names parts, m ∈ done) :
    rendered (among value done) parts = rendered value parts := by
  induction parts with
  | nil => rfl
  | cons part parts ih =>
    have tail := ih fun m member => all m (names_subset_cons part parts member)
    rw [rendered_cons, rendered_cons, tail]
    cases part with
    | plain c => rfl
    | named m => rw [Part.text, Part.text, among, if_pos (all m List.mem_cons_self)]

end

section
variable {env : Environment} {parts : List Part}

/-- A reference that is not replaced is left as it is. -/
theorem substitute_of_kept (kept : Part.text env.value? (.named n) = reference n) (s : List Char) :
    substitute env s n = s := by
  unfold substitute
  split
  next w set =>
    rw [Part.text, set, Option.getD_some] at kept
    rw [kept, replaceAll_self (reference_ne_nil n)]
  next none => rfl

/-- One step of the expansion. -/
theorem substitute_rendered (cut : Cut s parts) (apart : Apart env.value? parts)
    (settled : Settled env.value? parts) (member : n ∈ names parts) (done : List (List Char)) :
    substitute env (rendered (among env.value? done) parts) n =
      rendered (among env.value? (n :: done)) parts := by
  rw [among_cons]
  by_cases replaced : Replaced env.value? n
  · obtain ⟨w, set⟩ : ∃ w, env.value? n = some w :=
      Option.ne_none_iff_exists'.1 fun none => replaced (by rw [Part.text, none, Option.getD_none])
    have alone := apart.alone settled cut member replaced
    rw [substitute, set]
    exact alone.replaceAll_rendered (among_cases env.value? done) set
  · -- A variable without a value and one whose value is its own reference change nothing.
    have kept : Part.text env.value? (.named n) = reference n := not_not.1 replaced
    rw [substitute_of_kept kept]
    refine rendered_congr (fun m => ?_) parts
    by_cases same : m = n
    · subst same
      have here : Part.text (Function.update (among env.value? done) m (env.value? m)) (.named m) =
          reference m := by
        rw [Part.text, Function.update_self]
        exact kept
      rw [here, Part.text]
      rcases among_cases env.value? done m with unknown | known
      · rw [unknown, Option.getD_none]
      · rw [known]
        exact kept
    · rw [Part.text_update_of_ne fun named => same (Part.named.inj named)]

/-- A run of the expansion, for any names that the text refers to. -/
theorem foldl_substitute (cut : Cut s parts) (apart : Apart env.value? parts)
    (settled : Settled env.value? parts) {order : List (List Char)}
    (members : ∀ n ∈ order, n ∈ names parts) (done : List (List Char)) :
    order.foldl (substitute env) (rendered (among env.value? done) parts) =
      rendered (among env.value? (order.reverse ++ done)) parts := by
  induction order generalizing done with
  | nil => rfl
  | cons n order ih =>
    rw [List.foldl_cons, substitute_rendered cut apart settled (members n List.mem_cons_self),
      ih fun m member => members m (List.mem_cons_of_mem n member), List.reverse_cons,
      List.append_assoc, List.singleton_append]

/-- Whether replacing the references of a text one after the other, in any order and any number of
times, is to replace them at once. -/
def SameInAnyOrder (env : Environment) (s : List Char) (parts : List Part) : Prop :=
  ∀ order : List (List Char), (∀ n, n ∈ order ↔ n ∈ names parts) →
    order.foldl (substitute env) s = rendered env.value? parts

theorem sameInAnyOrder_of_settled (cut : Cut s parts) (apart : Apart env.value? parts)
    (settled : Settled env.value? parts) : SameInAnyOrder env s parts := by
  intro order same
  have start : rendered (among env.value? []) parts = s := by
    rw [← rendered_none cut]
    rfl
  have run := foldl_substitute cut apart settled (fun n => (same n).1) []
  rw [start] at run
  rw [run]
  exact rendered_among fun m member => by simpa using (same m).2 member

/-- A reference that came up in the end would be replaced in a run that goes on. -/
theorem settled_of_sameInAnyOrder (same : SameInAnyOrder env s parts) :
    Settled env.value? parts := by
  intro n member replaced inside
  have once := same (names parts) fun m => Iff.rfl
  have again := same (names parts ++ [n]) fun m => by
    rw [List.mem_append, List.mem_singleton]
    exact or_iff_left_of_imp fun last => last ▸ member
  rw [List.foldl_append, once, List.foldl_cons, List.foldl_nil, substitute] at again
  split at again
  next w set =>
    apply replaced
    rw [Part.text, set, Option.getD_some]
    exact eq_of_replaceAll_eq (reference_ne_nil n) again inside
  next none => exact replaced (by rw [Part.text, none, Option.getD_none])

/-- Every text is cut into its references in one way. Where no reference that is replaced stands
inside another one, replacing them one after the other is to replace them at once, in any order and
any number of times, just if none comes up in the text where all are replaced at once; expanding the
text gives that text then. -/
theorem expand_at_once (env : Environment) (s : String) :
    ∃ parts, (∀ others, Cut s.toList others ↔ others = parts) ∧
      (Apart env.value? parts →
        (SameInAnyOrder env s.toList parts ↔ Settled env.value? parts) ∧
        (Settled env.value? parts →
          expand env s = String.ofList (rendered env.value? parts))) := by
  obtain ⟨parts, cut⟩ := exists_cut s.toList
  refine ⟨parts, fun others => ⟨fun other => other.unique cut, fun same => same ▸ cut⟩, ?_⟩
  intro apart
  have runs := sameInAnyOrder_of_settled cut apart
  refine ⟨⟨settled_of_sameInAnyOrder, runs⟩, fun settled => ?_⟩
  rw [expand, expandChars, namesFrom_cut cut, runs settled _ fun n => Iff.rfl]

/-- A character that starts no reference. -/
theorem Cut.other {c : Char} {s : List Char} {parts : List Part} (other : c ≠ '$')
    (cut : Cut s parts) : Cut (c :: s) (.plain c :: parts) := by
  refine .plain (fun name _ start => other ?_) cut
  exact (List.cons_prefix_cons.1 start).1.symm

/-- A value with braces between references, one of them to a variable that is not set. -/
theorem braced_value_kept :
    expand [("A", "\x7bA\x7d")] "$\x7bA\x7d$\x7bC\x7d-$\x7bA\x7d" =
      "\x7bA\x7d$\x7bC\x7d-\x7bA\x7d" := by
  obtain ⟨parts, cuts, expands⟩ :=
    expand_at_once [("A", "\x7bA\x7d")] "$\x7bA\x7d$\x7bC\x7d-$\x7bA\x7d"
  have text : "$\x7bA\x7d$\x7bC\x7d-$\x7bA\x7d".toList =
      reference ['A'] ++ (reference ['C'] ++ '-' :: (reference ['A'] ++ [])) := by decide
  have name {c : Char} (other : '\x7d' ≠ c) : IsName [c] :=
    ⟨List.cons_ne_nil c [], by simpa using other⟩
  have cut := text ▸ Cut.named (name (by decide)) (.named (name (by decide))
    (.other (by decide) (.named (name (by decide)) .nil)))
  obtain rfl := (cuts _).1 cut
  have only : ∀ m ∈ names [.named ['A'], .named ['C'], .plain '-', .named ['A']],
      Replaced (Environment.value? [("A", "\x7bA\x7d")]) m → m = ['A'] := by
    unfold Replaced
    decide
  have apart : Apart (Environment.value? [("A", "\x7bA\x7d")])
      [.named ['A'], .named ['C'], .plain '-', .named ['A']] := by
    intro m member n member' replaced replaced' _
    rw [only m member replaced, only n member' replaced']
  have settled : Settled (Environment.value? [("A", "\x7bA\x7d")])
      [.named ['A'], .named ['C'], .plain '-', .named ['A']] := by
    intro n member replaced
    rw [only n member replaced]
    decide
  rw [(expands apart).2 settled]
  decide

/-- The value of a variable is searched for the references that come later, so one of two
references is expanded twice, or not at all, by the order in which they stand. -/
theorem value_expanded_again :
    ∃ parts, Cut "$\x7bA\x7d $\x7bB\x7d".toList parts ∧
      rendered (Environment.value? [("A", "$\x7bB\x7d"), ("B", "true")]) parts =
        "$\x7bB\x7d true".toList ∧
      expand [("A", "$\x7bB\x7d"), ("B", "true")] "$\x7bA\x7d $\x7bB\x7d" = "true true" ∧
      expand [("A", "$\x7bB\x7d"), ("B", "true")] "$\x7bB\x7d $\x7bA\x7d" =
        "true $\x7bB\x7d" := by
  have text : "$\x7bA\x7d $\x7bB\x7d".toList =
      reference ['A'] ++ ' ' :: (reference ['B'] ++ []) := by decide
  refine ⟨[.named ['A'], .plain ' ', .named ['B']], ?_, by decide, by decide, by decide⟩
  rw [text]
  exact .named ⟨by decide, by decide⟩ (.other (by decide) (.named ⟨by decide, by decide⟩ .nil))

end

end QueryPlan.Settings
