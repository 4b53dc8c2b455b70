import Mathlib.Data.List.Forall2
import QueryPlan.Proofs.Sql.Grammar

/-!
# What parts of a statement mean

A part of a statement denotes a meaning (`Denotes`) if a reader takes exactly its tokens off,
wherever they stand, and what it reads has that meaning on every row once the parameters are bound.
Denotations compose as statements do: lists of parts denote the lists of their meanings
(`Denotes.items`), conjunctions and disjunctions hold where all or some of their parts do
(`IsFilter.conjunction`, `IsFilter.disjunction`), and parentheses change nothing
(`IsFilter.parenthesized`).
-/

namespace QueryPlan.Sql
set_option autoImplicit false
open Statement

/-! ### Numbering -/

theorem numberedFrom_append {s : List Token} (plain : ∀ t ∈ s, t.placeholder? = none) (count : Nat)
    (t : List Token) : numberedFrom count (s ++ t) = s ++ numberedFrom count t := by
  induction s with
  | nil => rfl
  | cons a s ih =>
    have first := plain a (by simp)
    have rest := ih fun b hb => plain b (List.mem_cons_of_mem a hb)
    cases a with
    | placeholder number => simp [Token.placeholder?] at first
    | _ => simp only [List.cons_append, numberedFrom, rest]

/-- Numbering the placeholders of any dialect gives the tokens of the one that numbers them. -/
theorem numberedFrom_tokensFrom {s : Statement} (plain : ∀ piece ∈ s, piece.IsPlain) (d : Dialect)
    (count : Nat) : numberedFrom count (tokensFrom d count s) = tokensFrom .postgres count s := by
  induction s generalizing count with
  | nil => rfl
  | cons piece s ih =>
    have rest := ih (fun p hp => plain p (List.mem_cons_of_mem piece hp)) (count + piece.binds)
    rw [tokensFrom, tokensFrom]
    cases piece with
    | text s =>
      rw [← rest]
      exact numberedFrom_append (plain (.text s) (by simp)).placeholder?_eq_none count _
    | param value =>
      rw [← rest]
      cases d <;> rfl
    | _ =>
      rw [← rest]
      rfl

/-! ### Denotations -/

section
variable {α β γ δ : Type}

/-- A part of a statement has a meaning: wherever it stands, up to a token that does not stop it,
it is read in full, and what is read has the meaning on every row. -/
def Denotes (read : Reader α) (value : α → Row → List Value → β) (stop : List Token)
    (s : Statement) (meaning : Row → β) : Prop :=
  ∀ count, ∃ a,
    (∀ rest, (∀ t ∈ rest.head?, t ∉ stop) →
      read (tokensFrom .postgres count s ++ rest) = some (a, rest)) ∧
    ∀ row before after, before.length = count →
      value a row (before ++ params s ++ after) = meaning row

variable {read : Reader α} {value : α → Row → List Value → β} {stop : List Token} {s : Statement}
  {meaning : Row → β}

/-- Reading more into what is read. -/
theorem Denotes.map {read' : Reader γ} {value' : γ → Row → List Value → δ} (f : α → γ) (g : β → δ)
    (h : Denotes read value stop s meaning)
    (reads : ∀ tokens a rest, read tokens = some (a, rest) → read' tokens = some (f a, rest))
    (values : ∀ a row params, value' (f a) row params = g (value a row params)) :
    Denotes read' value' stop s fun row => g (meaning row) := by
  intro count
  obtain ⟨a, taken, meant⟩ := h count
  refine ⟨f a, fun rest stops => reads _ _ _ (taken rest stops), fun row before after length => ?_⟩
  rw [values, meant row before after length]

end

/-! ### Lists of parts -/

section
variable {α β : Type} {read : Reader α} {value : α → Row → List Value → β} {stop : List Token}
  {separator : String} {sign : Token}

/-- Parts and meanings that come from the same list. -/
theorem forall₂_map_map {σ : Type} {read : Reader α} {value : α → Row → List Value → β}
    {stop : List Token} {statement : σ → Statement} {meaning : σ → Row → β} {l : List σ}
    (each : ∀ a ∈ l, Denotes read value stop (statement a) (meaning a)) :
    (l.map statement).Forall₂ (Denotes read value stop) (l.map meaning) := by
  rw [List.forall₂_map_left_iff, List.forall₂_map_right_iff, List.forall₂_same]
  exact each

theorem joined_singleton (separator : String) (s : Statement) : joined separator [s] = s := by
  simp [joined, List.intercalate]

theorem tokensFrom_joined_cons_cons (separates : wordsOf separator = [sign]) (count : Nat)
    (s t : Statement) (parts : List Statement) :
    tokensFrom .postgres count (joined separator (s :: t :: parts)) =
      tokensFrom .postgres count s ++ sign ::
        tokensFrom .postgres (count + (params s).length) (joined separator (t :: parts)) := by
  unfold joined
  rw [List.intercalate_cons_cons, tokensFrom_append, tokensFrom_append]
  simp [tokensFrom, Piece.tokensAfter, separates, params]

/-- There is a token for every separator. -/
theorem length_le_tokensFrom_joined (separates : wordsOf separator = [sign]) (count : Nat)
    (parts : List Statement) :
    parts.length ≤ (tokensFrom .postgres count (joined separator parts)).length + 1 := by
  induction parts generalizing count with
  | nil => exact Nat.zero_le _
  | cons s rest ih =>
    cases rest with
    | nil => exact Nat.le_add_left _ _
    | cons t rest =>
      have tail := ih (count + (params s).length)
      rw [tokensFrom_joined_cons_cons separates]
      simp only [List.length_cons, List.length_append] at tail ⊢
      omega

/-- The induction on the parts; the fuel is enough if there is some for each of them. -/
theorem Denotes.itemsFrom (separates : wordsOf separator = [sign]) (fresh : sign ∉ stop)
    {s : Statement} {parts : List Statement} {meaning : Row → β} {meanings : List (Row → β)}
    (first : Denotes read value stop s meaning)
    (others : parts.Forall₂ (Denotes read value stop) meanings) (count : Nat) :
    ∃ a : α × List α,
      (∀ fuel rest, parts.length < fuel → (∀ t ∈ rest.head?, t ∉ sign :: stop) →
        Reader.itemsFrom sign read fuel
          (tokensFrom .postgres count (joined separator (s :: parts)) ++ rest) = some (a, rest)) ∧
      ∀ row before after, before.length = count →
        (a.1 :: a.2).map (fun a => value a row
          (before ++ params (joined separator (s :: parts)) ++ after)) =
        meaning row :: meanings.map fun m => m row := by
  induction others generalizing s meaning count with
  | nil =>
    obtain ⟨a, taken, meant⟩ := first count
    have alone := joined_singleton separator s
    refine ⟨(a, []), fun fuel rest enough stops => ?_, fun row before after length => ?_⟩
    · obtain ⟨fuel, rfl⟩ := Nat.exists_eq_add_of_lt enough
      -- The token behind the last part is no separator, so the list ends here.
      have ends : Reader.expect sign rest = none := by
        cases rest with
        | nil => rfl
        | cons t rest => exact if_neg fun same => stops t rfl (by simp [same])
      have stops' : ∀ t ∈ rest.head?, t ∉ stop := fun t ht =>
        List.not_mem_of_not_mem_cons (stops t ht)
      rw [alone, Reader.itemsFrom, taken rest stops', Option.bind_eq_bind, Option.bind_some]
      simp only [ends]
    · rw [alone, List.map_singleton, meant row before after length]
      rfl
  | @cons t m parts meanings second others ih =>
    obtain ⟨a, taken, meant⟩ := first count
    obtain ⟨b, taken', meant'⟩ := ih second (count + (params s).length)
    have split : params (joined separator (s :: t :: parts)) =
        params s ++ params (joined separator (t :: parts)) := by simp
    refine ⟨(a, b.1 :: b.2), fun fuel rest enough stops => ?_, fun row before after length => ?_⟩
    · obtain ⟨fuel, rfl⟩ := Nat.exists_eq_add_of_lt enough
      have here := taken (sign :: (tokensFrom .postgres (count + (params s).length)
        (joined separator (t :: parts)) ++ rest)) (by rintro t ⟨⟩; exact fresh)
      have there := taken' (parts.length + 1 + fuel) rest (by omega) stops
      rw [tokensFrom_joined_cons_cons separates, List.append_assoc, List.cons_append,
        List.length_cons, Reader.itemsFrom, here, Option.bind_eq_bind, Option.bind_some]
      simp only [Reader.expect, if_true, there]
      rfl
    · -- The parameters of the first part stand before those of the others.
      have tail := meant' row (before ++ params s) after (by simp [length])
      have head := meant row before (params (joined separator (t :: parts)) ++ after) length
      simp only [List.append_assoc] at head tail
      simp only [List.map_cons, split, List.append_assoc, head] at tail ⊢
      rw [tail]

/-- Parts with a separator between them mean what each of them means. -/
theorem Denotes.items (separates : wordsOf separator = [sign]) (fresh : sign ∉ stop)
    {parts : List Statement} {meanings : List (Row → β)} (nonempty : parts ≠ [])
    (each : parts.Forall₂ (Denotes read value stop) meanings) :
    Denotes (Reader.items sign read)
      (fun a row params => (a.1 :: a.2).map fun a => value a row params) (sign :: stop)
      (joined separator parts) fun row => meanings.map fun m => m row := by
  intro count
  cases each with
  | nil => exact absurd rfl nonempty
  | @cons s m parts meanings first others =>
    obtain ⟨a, taken, meant⟩ := Denotes.itemsFrom separates fresh first others count
    refine ⟨a, fun rest stops => taken _ rest ?_ stops, meant⟩
    have enough := length_le_tokensFrom_joined separates count (s :: parts)
    simp only [List.length_cons, List.length_append] at enough ⊢
    omega

end

/-! ### Connectives -/

section
variable {engine : Engine} {inner : Reader Filter} {stop : List Token} {s : Statement}
  {holds : Row → Prop} {parts : List Statement} {properties : List (Row → Prop)}

/-- A filter denotes the property of the rows that it selects. -/
abbrev IsFilter (engine : Engine) (read : Reader Filter) (stop : List Token) (s : Statement)
    (holds : Row → Prop) : Prop :=
  Denotes read (fun f row params => f.Selects engine row params) stop s holds

theorem IsFilter.parenthesized (closes : .mark ')' ∉ stop)
    (h : IsFilter engine inner stop s holds) :
    IsFilter engine (Reader.operand inner) [] (.text "(" :: s ++ [.text ")"]) holds := by
  intro count
  obtain ⟨f, taken, meant⟩ := h count
  refine ⟨f, fun rest _ => ?_, fun row before after length => ?_⟩
  · have tokens : tokensFrom .postgres count (.text "(" :: s ++ [.text ")"]) =
        .mark '(' :: (tokensFrom .postgres count s ++ [.mark ')']) := by
      rw [List.cons_append, tokensFrom, tokensFrom_append]
      rfl
    have inside := taken (.mark ')' :: rest) (by rintro t ⟨⟩; exact closes)
    rw [tokens, List.cons_append, List.append_assoc, List.singleton_append, Reader.operand, inside]
    rfl
  · have same : params (.text "(" :: s ++ [.text ")"]) = params s := by simp [params]
    rw [same]
    exact meant row before after length

/-- Filters with `AND` between them hold where all of them do. -/
theorem IsFilter.conjunction (nonempty : parts ≠ [])
    (each : parts.Forall₂ (IsFilter engine (Reader.operand inner) []) properties) :
    IsFilter engine (Reader.conjunction inner) [.word "AND"] (joined " AND " parts)
      fun row => ∀ p ∈ properties, p row := by
  have separates : wordsOf " AND " = [.word "AND"] := rfl
  have all := Denotes.items separates (by simp) nonempty each
  have folded : IsFilter engine (Reader.conjunction inner) [.word "AND"] (joined " AND " parts)
      fun row => ∀ p ∈ properties.map fun p => p row, p :=
    all.map (fun fs => fs.2.foldl .and fs.1) (fun ps => ∀ p ∈ ps, p)
      (fun tokens fs rest read => by rw [Reader.conjunction, read]; rfl)
      (fun fs row params => propext (by rw [Filter.selects_foldl_and, List.forall_mem_map]))
  simpa only [List.forall_mem_map] using folded

theorem exists_mem_map {σ τ : Type} {f : σ → τ} {l : List σ} {p : τ → Prop} :
    (∃ b ∈ l.map f, p b) ↔ ∃ a ∈ l, p (f a) := by
  simp only [List.mem_map, exists_exists_and_eq_and]

/-- Conjunctions with `OR` between them hold where one of them does. -/
theorem IsFilter.disjunction (nonempty : parts ≠ [])
    (each : parts.Forall₂ (IsFilter engine (Reader.conjunction inner) [.word "AND"]) properties) :
    IsFilter engine (Reader.disjunction inner) [.word "OR", .word "AND"] (joined " OR " parts)
      fun row => ∃ p ∈ properties, p row := by
  have separates : wordsOf " OR " = [.word "OR"] := rfl
  have all := Denotes.items separates (by simp) nonempty each
  have folded : IsFilter engine (Reader.disjunction inner) [.word "OR", .word "AND"]
      (joined " OR " parts) fun row => ∃ p ∈ properties.map fun p => p row, p :=
    all.map (fun fs => fs.2.foldl .or fs.1) (fun ps => ∃ p ∈ ps, p)
      (fun tokens fs rest read => by rw [Reader.disjunction, read]; rfl)
      (fun fs row params => propext (by rw [Filter.selects_foldl_or, exists_mem_map]))
  simpa only [exists_mem_map] using folded

/-- An operand is a conjunction by itself. -/
theorem IsFilter.to_conjunction (h : IsFilter engine (Reader.operand inner) [] s holds) :
    IsFilter engine (Reader.conjunction inner) [.word "AND"] s holds := by
  have alone := IsFilter.conjunction (List.cons_ne_nil s []) (.cons h .nil)
  simpa only [joined_singleton, List.forall_mem_singleton] using alone

/-- A conjunction is a filter by itself. -/
theorem IsFilter.to_disjunction
    (h : IsFilter engine (Reader.conjunction inner) [.word "AND"] s holds) :
    IsFilter engine (Reader.disjunction inner) [.word "OR", .word "AND"] s holds := by
  have alone := IsFilter.disjunction (List.cons_ne_nil s []) (.cons h .nil)
  simpa only [joined_singleton, List.mem_singleton, exists_eq_left] using alone

end
end QueryPlan.Sql
