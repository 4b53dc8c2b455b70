import Mathlib.Data.List.Infix
import QueryPlan.Proofs.Filtering

/-!
# Patterns match literally

What a LIKE pattern matches is told by its characters (`Like.Matches`): `%` stands for any sequence,
`_` for any one character, and a character after a backslash for itself. The pattern of a
search text matches just the texts that hold it at the right place, whatever wildcards and escape
characters the search text has in it (`matches_patternChars`). Lowering the letters of a pattern
gives the pattern of the lower-cased search text (`patternChars_lower`), so a search that ignores
case is literal too.
-/

namespace QueryPlan
set_option autoImplicit false
open Sql

namespace Like

/-- The texts that a pattern matches. A backslash with nothing after it matches none. -/
inductive Matches : List Char → List Char → Prop where
  | nil : Matches [] []
  | sequence {p t : List Char} (taken : List Char) :
      Matches p t → Matches ('%' :: p) (taken ++ t)
  | one {p t : List Char} (c : Char) : Matches p t → Matches ('_' :: p) (c :: t)
  | escaped {p t : List Char} (c : Char) : Matches p t → Matches ('\x5c' :: c :: p) (c :: t)
  | plain {p t : List Char} {c : Char} :
      c ∉ ['%', '_', '\x5c'] → Matches p t → Matches (c :: p) (c :: t)

/-- What the first character of a pattern takes from a text that the pattern matches. -/
theorem Matches.cons_cases {c : Char} {p t : List Char} (h : Matches (c :: p) t) :
    (c = '%' ∧ ∃ taken rest, t = taken ++ rest ∧ Matches p rest) ∨
    (c = '_' ∧ ∃ d rest, t = d :: rest ∧ Matches p rest) ∨
    (c = '\x5c' ∧ ∃ d q rest, p = d :: q ∧ t = d :: rest ∧ Matches q rest) ∨
    (c ∉ ['%', '_', '\x5c'] ∧ ∃ rest, t = c :: rest ∧ Matches p rest) := by
  cases h with
  | sequence taken h => exact .inl ⟨rfl, taken, _, rfl, h⟩
  | one d h => exact .inr (.inl ⟨rfl, d, _, rfl, h⟩)
  | escaped d h => exact .inr (.inr (.inl ⟨rfl, d, _, _, rfl, rfl, h⟩))
  | plain special h => exact .inr (.inr (.inr ⟨special, _, rfl, h⟩))

theorem matches_nil_iff {t : List Char} : Matches [] t ↔ t = [] := by
  constructor
  · rintro ⟨⟩
    rfl
  · rintro rfl
    exact .nil

theorem matches_sequence_iff {p t : List Char} :
    Matches ('%' :: p) t ↔ ∃ taken rest, t = taken ++ rest ∧ Matches p rest := by
  constructor
  · intro h
    obtain ⟨-, found⟩ | ⟨other, -⟩ | ⟨other, -⟩ | ⟨other, -⟩ := h.cons_cases
    · exact found
    all_goals exact absurd other (by decide)
  · rintro ⟨taken, rest, rfl, h⟩
    exact .sequence taken h

theorem matches_one_iff {p t : List Char} :
    Matches ('_' :: p) t ↔ ∃ c rest, t = c :: rest ∧ Matches p rest := by
  constructor
  · intro h
    obtain ⟨other, -⟩ | ⟨-, found⟩ | ⟨other, -⟩ | ⟨other, -⟩ := h.cons_cases
    · exact absurd other (by decide)
    · exact found
    all_goals exact absurd other (by decide)
  · rintro ⟨c, rest, rfl, h⟩
    exact .one c h

theorem matches_escaped_iff {p t : List Char} :
    Matches ('\x5c' :: p) t ↔ ∃ c q rest, p = c :: q ∧ t = c :: rest ∧ Matches q rest := by
  constructor
  · intro h
    obtain ⟨other, -⟩ | ⟨other, -⟩ | ⟨-, found⟩ | ⟨other, -⟩ := h.cons_cases
    · exact absurd other (by decide)
    · exact absurd other (by decide)
    · exact found
    · exact absurd other (by decide)
  · rintro ⟨c, q, rest, rfl, rfl, h⟩
    exact .escaped c h

theorem matches_plain_iff {c : Char} (plain : c ∉ ['%', '_', '\x5c']) {p t : List Char} :
    Matches (c :: p) t ↔ ∃ rest, t = c :: rest ∧ Matches p rest := by
  constructor
  · intro h
    obtain ⟨rfl, -⟩ | ⟨rfl, -⟩ | ⟨rfl, -⟩ | ⟨-, found⟩ := h.cons_cases
    · exact absurd plain (by decide)
    · exact absurd plain (by decide)
    · exact absurd plain (by decide)
    · exact found
  · rintro ⟨rest, rfl, h⟩
    exact .plain plain h

/-- The characters that are escaped are those with a meaning of their own. -/
theorem isSpecial_iff {c : Char} : isSpecial c = true ↔ c ∈ ['%', '_', '\x5c'] := by
  simp only [isSpecial, Bool.or_eq_true, decide_eq_true_eq, List.mem_cons, List.not_mem_nil,
    or_false, or_assoc]
  rfl

/-- The escaped form of a text takes just this text, whatever follows in the pattern. -/
theorem matches_escapeChars_append {v p t : List Char} :
    Matches (escapeChars v ++ p) t ↔ ∃ rest, t = v ++ rest ∧ Matches p rest := by
  induction v generalizing t with
  | nil => simp [escapeChars]
  | cons c v ih =>
    have head : Matches (escapeChars (c :: v) ++ p) t ↔
        ∃ rest, t = c :: rest ∧ Matches (escapeChars v ++ p) rest := by
      rw [escapeChars]
      cases special : isSpecial c with
      | true =>
        show Matches ('\x5c' :: c :: (escapeChars v ++ p)) t ↔ _
        simp [matches_escaped_iff]
      | false =>
        have plain : c ∉ ['%', '_', '\x5c'] := by
          rw [← isSpecial_iff, special]
          exact Bool.false_ne_true
        exact matches_plain_iff plain
    rw [head]
    constructor
    · rintro ⟨after, rfl, h⟩
      obtain ⟨rest, rfl, taken⟩ := ih.1 h
      exact ⟨rest, rfl, taken⟩
    · rintro ⟨rest, rfl, h⟩
      exact ⟨v ++ rest, rfl, ih.2 ⟨rest, rfl, h⟩⟩

/-- Whether a pattern matches a text, by trying every sequence that a wildcard can take. -/
def isMatch : List Char → List Char → Bool
  | [], t => t.isEmpty
  | c :: p, t =>
    if c = '%' then t.tails.any fun s => isMatch p s
    else if c = '_' then
      match t with
      | [] => false
      | _ :: rest => isMatch p rest
    else if c = '\x5c' then
      match p, t with
      | d :: q, e :: rest => d = e && isMatch q rest
      | _, _ => false
    else
      match t with
      | [] => false
      | d :: rest => c = d && isMatch p rest

theorem isMatch_iff {p t : List Char} : isMatch p t = true ↔ Matches p t := by
  fun_induction isMatch p t with
  | case1 t => rw [List.isEmpty_iff, matches_nil_iff]
  | case2 p t ih =>
    rw [matches_sequence_iff, List.any_eq_true]
    constructor
    · rintro ⟨rest, suffix, h⟩
      obtain ⟨taken, rfl⟩ := (List.mem_tails rest t).1 suffix
      exact ⟨taken, rest, rfl, (ih rest).1 h⟩
    · rintro ⟨taken, rest, rfl, h⟩
      exact ⟨rest, (List.mem_tails _ _).2 (List.suffix_append taken rest), (ih rest).2 h⟩
  | case3 p _ => simp [matches_one_iff]
  | case4 p c rest _ ih => simp [matches_one_iff, ih]
  | case5 d q e rest _ _ ih =>
    rw [matches_escaped_iff, Bool.and_eq_true, decide_eq_true_eq, ih]
    constructor
    · rintro ⟨rfl, h⟩
      exact ⟨d, q, rest, rfl, rfl, h⟩
    · rintro ⟨_, _, _, ⟨⟩, ⟨⟩, h⟩
      exact ⟨rfl, h⟩
  | case6 p t other _ _ =>
    rw [matches_escaped_iff]
    constructor
    · rintro ⟨⟩
    · rintro ⟨c, q, rest, rfl, rfl, -⟩
      exact (other c q c rest rfl rfl).elim
  | case7 c p sequence one escape =>
    rw [matches_plain_iff (by simp [sequence, one, escape])]
    simp
  | case8 c p sequence one escape d rest ih =>
    rw [matches_plain_iff (by simp [sequence, one, escape]), Bool.and_eq_true,
      decide_eq_true_eq, ih]
    constructor
    · rintro ⟨rfl, h⟩
      exact ⟨rest, rfl, h⟩
    · rintro ⟨_, ⟨⟩, h⟩
      exact ⟨rfl, h⟩

instance (p t : List Char) : Decidable (Matches p t) := decidable_of_iff _ isMatch_iff

/-- The wildcard for sequences alone takes everything. -/
theorem matches_sequence_alone (t : List Char) : Matches ['%'] t :=
  matches_sequence_iff.2 ⟨t, [], by simp, .nil⟩

end Like

/-- Where a search text must stand in a text for a pattern of the position to match. -/
def PatternPosition.Finds (position : PatternPosition) (v t : List Char) : Prop :=
  match position with
  | .contains => v <:+: t
  | .startsWith => v <+: t
  | .endsWith => v <:+ t

instance (position : PatternPosition) (v t : List Char) : Decidable (position.Finds v t) :=
  match position with
  | .contains => inferInstanceAs (Decidable (v <:+: t))
  | .startsWith => inferInstanceAs (Decidable (v <+: t))
  | .endsWith => inferInstanceAs (Decidable (v <:+ t))

namespace Like

/-- The pattern of a search text matches just the texts that hold the search text. -/
theorem matches_patternChars (position : PatternPosition) (v t : List Char) :
    Matches (patternChars position v) t ↔ position.Finds v t := by
  have starts (t : List Char) : Matches (escapeChars v ++ ['%']) t ↔ v <+: t := by
    rw [matches_escapeChars_append]
    constructor
    · rintro ⟨rest, rfl, -⟩
      exact List.prefix_append v rest
    · rintro ⟨rest, rfl⟩
      exact ⟨rest, rfl, matches_sequence_alone rest⟩
  have all (t : List Char) : Matches (escapeChars v) t ↔ t = v := by
    rw [← List.append_nil (escapeChars v), matches_escapeChars_append]
    simp [matches_nil_iff]
  cases position with
  | contains =>
    show Matches ('%' :: (escapeChars v ++ ['%'])) t ↔ v <:+: t
    rw [matches_sequence_iff]
    constructor
    · rintro ⟨before, rest, rfl, h⟩
      obtain ⟨after, rfl⟩ := (starts rest).1 h
      exact ⟨before, after, List.append_assoc before v after⟩
    · rintro ⟨before, after, rfl⟩
      exact ⟨before, v ++ after, List.append_assoc before v after,
        (starts _).2 (List.prefix_append v after)⟩
  | startsWith => exact starts t
  | endsWith =>
    show Matches ('%' :: escapeChars v) t ↔ v <:+ t
    rw [matches_sequence_iff]
    constructor
    · rintro ⟨before, rest, rfl, h⟩
      obtain rfl := (all rest).1 h
      exact List.suffix_append before rest
    · rintro ⟨before, rfl⟩
      exact ⟨before, v, rfl, (all v).2 rfl⟩

/-! ### Lower case -/

theorem toLower_of_isSpecial {c : Char} (special : isSpecial c = true) : c.toLower = c := by
  simp only [isSpecial, Bool.or_eq_true, decide_eq_true_eq] at special
  obtain (rfl | rfl) | rfl := special <;> rfl

/-- The special characters come before the small letters. -/
theorem isSpecial_of_le {c : Char} (h : 'a'.toNat ≤ c.toNat) : isSpecial c = false := by
  cases special : isSpecial c with
  | false => rfl
  | true =>
    simp only [isSpecial, Bool.or_eq_true, decide_eq_true_eq] at special
    obtain (rfl | rfl) | rfl := special <;> exact absurd h (by decide)

/-- Lowering changes a character only if it makes a small letter of it. -/
theorem toLower_eq_or_le (c : Char) : c.toLower = c ∨ 'a'.toNat ≤ c.toLower.toNat := by
  unfold Char.toLower
  split
  next capital =>
    obtain ⟨low, high⟩ := capital
    rw [ge_iff_le, UInt32.le_iff_toNat_le] at low
    rw [UInt32.le_iff_toNat_le] at high
    refine .inr ?_
    show 97 ≤ (c.val + 32).toNat
    rw [UInt32.toNat_add]
    simp at low high ⊢
    omega
  next => exact .inl rfl

/-- Lowering a character neither makes nor removes a special one. -/
theorem isSpecial_toLower (c : Char) : isSpecial c.toLower = isSpecial c := by
  cases special : isSpecial c with
  | true => rw [toLower_of_isSpecial special, special]
  | false =>
    obtain same | letter := toLower_eq_or_le c
    · rw [same, special]
    · exact isSpecial_of_le letter

theorem escapeChars_lower (v : List Char) :
    (escapeChars v).map Char.toLower = escapeChars (v.map Char.toLower) := by
  induction v with
  | nil => rfl
  | cons c v ih =>
    rw [List.map_cons, escapeChars, escapeChars, isSpecial_toLower]
    split
    · rw [List.map_cons, List.map_cons, ih]
      rfl
    · rw [List.map_cons, ih]

/-- The pattern in lower case is the pattern of the search text in lower case. -/
theorem patternChars_lower (position : PatternPosition) (v : List Char) :
    (patternChars position v).map Char.toLower = patternChars position (v.map Char.toLower) := by
  have wildcard : anySequence.toLower = anySequence := rfl
  cases position <;> simp [patternChars, escapeChars_lower, wildcard]

end Like

theorem Text.toList_lower (s : String) : (Text.lower s).toList = s.toList.map Char.toLower := by
  simp [Text.lower]

namespace Like

theorem matches_pattern (position : PatternPosition) (v t : String) :
    Matches (pattern position v).toList t.toList ↔ position.Finds v.toList t.toList := by
  rw [pattern, String.toList_ofList]
  exact matches_patternChars position v.toList t.toList

theorem matches_pattern_lower (position : PatternPosition) (v t : String) :
    Matches (Text.lower (pattern position v)).toList (Text.lower t).toList ↔
      position.Finds (Text.lower v).toList (Text.lower t).toList := by
  rw [Text.toList_lower (pattern position v), pattern, String.toList_ofList, patternChars_lower,
    Text.toList_lower v]
  exact matches_patternChars position _ _

end Like

/-! ### Predicates -/

/-- Whether a kind compares lower-cased values. -/
def PredicateKind.ignoresCase : PredicateKind → Bool
  | .iEq | .iContains | .iStartsWith | .iEndsWith => true
  | _ => false

/-- A database that reads patterns as `Like.Matches` says, with a backslash for the escape
character, and that lowers the ASCII letters of a text. -/
structure Sql.Engine.ReadsPatterns (engine : Engine) : Prop where
  like : ∀ t p : String, engine.like (some "\x5c") (.text t) (.text p) =
    some (decide (Like.Matches p.toList t.toList))
  lower : ∀ t : String, engine.lower (.text t) = .text (Text.lower t)

/-- A search for a text accepts the texts that it is found in. -/
theorem KnownKey.accepts_pattern {engine : Engine} (reads : engine.ReadsPatterns)
    {limits : RequestLimits} {k : KnownKey} {c : Condition} {position : PatternPosition}
    {v : String} (form : k.kind.form = .pattern position)
    (searched : Coercion.text? k.operand = some v) (compiled : k.condition limits = .ok c)
    (t : String) :
    c.Accepts engine (.text t) ↔
      if k.kind.ignoresCase then position.Finds (Text.lower v).toList (Text.lower t).toList
      else position.Finds v.toList t.toList := by
  have pattern : c = k.holding k.kind (.one (.text (Like.pattern position v))) := by
    rw [KnownKey.condition_eq, form] at compiled
    simp only [Coercion.text, searched] at compiled
    exact (Except.ok.inj compiled).symm
  subst pattern
  have exact_match : engine.like (some "\x5c") (.text t) (.text (Like.pattern position v)) =
      some true ↔ position.Finds v.toList t.toList := by
    rw [reads.like, Option.some_inj, decide_eq_true_iff, Like.matches_pattern]
  have lowered_match : engine.like (some "\x5c") (engine.lower (.text t))
      (engine.lower (.text (Like.pattern position v))) = some true ↔
        position.Finds (Text.lower v).toList (Text.lower t).toList := by
    rw [reads.lower, reads.lower, reads.like, Option.some_inj, decide_eq_true_iff,
      Like.matches_pattern_lower]
  unfold KnownKey.holding
  cases kind : k.kind with
  | contains | startsWith | endsWith => exact exact_match
  | iContains | iStartsWith | iEndsWith => exact lowered_match
  | _ => rw [kind] at form; cases form

/-- **Patterns match literally.** The pattern of a search text matches the texts that hold it at
the pattern's position, with any characters in both; in lower case, the lower-cased texts that hold
the lower-cased search text. So a search compiled from a request accepts just these texts. -/
theorem pattern_literal (position : PatternPosition) (v t : String) :
    (Like.Matches (Like.pattern position v).toList t.toList ↔
      position.Finds v.toList t.toList) ∧
    (Like.Matches (Text.lower (Like.pattern position v)).toList (Text.lower t).toList ↔
      position.Finds (Text.lower v).toList (Text.lower t).toList) ∧
    ∀ (engine : Engine), engine.ReadsPatterns → ∀ (limits : RequestLimits) (k : KnownKey)
      (c : Condition), k.kind.form = .pattern position → Coercion.text? k.operand = some v →
      k.condition limits = .ok c →
      (c.Accepts engine (.text t) ↔
        if k.kind.ignoresCase then position.Finds (Text.lower v).toList (Text.lower t).toList
        else position.Finds v.toList t.toList) := by
  refine ⟨Like.matches_pattern position v t, Like.matches_pattern_lower position v t, ?_⟩
  intro engine reads limits k c form searched compiled
  exact KnownKey.accepts_pattern reads form searched compiled t

namespace Sample

/-- A database that matches patterns and lowers ASCII letters. -/
def matcher : Engine where
  compare _ _ _ := none
  lower
    | .text s => .text (Text.lower s)
    | x => x
  trim := id
  like
    | some "\x5c", .text t, .text p => some (decide (Like.Matches p.toList t.toList))
    | _, _, _ => none

theorem matcher_readsPatterns : matcher.ReadsPatterns := ⟨fun _ _ => rfl, fun _ => rfl⟩

/-- A search, in any case, for titles that end in a percent sign and a backslash. -/
def discount : KnownKey where
  key := "title_i_ends_with"
  field := ⟨"title", .string, false⟩
  kind := .iEndsWith
  operand := .text "Off%\x5c"

end Sample

open Sample in
/-- The search finds the percent sign and the backslash, and takes neither for part of a pattern. -/
theorem discount_literal :
    let c : Condition := ⟨"title", .iEndsWith, .one (.text "%Off\x5c%\x5c\x5c")⟩
    discount.condition {} = .ok c ∧ c.Accepts matcher (.text "50 OFF%\x5c") ∧
      ¬ c.Accepts matcher (.text "50 OFF, all\x5c") := by
  intro c
  have compiled : discount.condition {} = .ok c := rfl
  have accepts (t : String) :=
    (pattern_literal .endsWith "Off%\x5c" t).2.2 matcher matcher_readsPatterns {} discount c rfl rfl
      compiled
  have other : ¬ PatternPosition.endsWith.Finds (Text.lower "Off%\x5c").toList
      (Text.lower "50 OFF, all\x5c").toList := by decide
  exact ⟨compiled, (accepts _).2 (by decide), fun found => other ((accepts _).1 found)⟩

end QueryPlan
