import Mathlib.Data.List.Forall2

/-!
# Traversals that stop at the first failure

What a chain of steps and a traversal of a list give in `Except`. A result decomposes into the
results of the steps (`bind_eq_ok_iff`, `mapM_eq_ok_iff`), and the failure of a traversal is that of
its first step that fails (`fault?_mapM`).
-/

namespace QueryPlan
set_option autoImplicit false

variable {ε α β : Type}

/-- The failure of a computation, if it fails. -/
def fault? : Except ε α → Option ε
  | .ok _ => none
  | .error e => some e

/-- A chain of two steps has a result if both steps have one. -/
theorem bind_eq_ok_iff {x : Except ε α} {f : α → Except ε β} {b : β} :
    (x >>= f) = .ok b ↔ ∃ a, x = .ok a ∧ f a = .ok b := by
  cases x <;> simp [bind, Except.bind]

/-- A chain of two steps fails with the failure of the first one that fails. -/
theorem bind_eq_error_iff {x : Except ε α} {f : α → Except ε β} {e : ε} :
    (x >>= f) = .error e ↔ x = .error e ∨ ∃ a, x = .ok a ∧ f a = .error e := by
  cases x <;> simp [bind, Except.bind]

/-- What a function sees of a first step is all that matters if the second step sees no more. -/
theorem bind_eq_of_map_eq {γ : Type} {x y : Except ε α} {g : α → γ} {f : α → Except ε β}
    (same : g <$> x = g <$> y) (later : ∀ a b, g a = g b → f a = f b) : x >>= f = y >>= f := by
  cases x with
  | error e =>
    cases y with
    | error e' =>
      cases same
      rfl
    | ok b => cases same
  | ok a =>
    cases y with
    | error e => cases same
    | ok b => exact later a b (Except.ok.inj same)

/-- A function of a result has a result if there is one to apply it to. -/
theorem map_eq_ok_iff {x : Except ε α} {f : α → β} {b : β} :
    x.map f = .ok b ↔ ∃ a, x = .ok a ∧ f a = b := by
  cases x <;> simp [Except.map]

/-- Rewording a failure changes no result. -/
theorem mapError_eq_ok_iff {δ : Type} {x : Except ε α} {f : ε → δ} {a : α} :
    x.mapError f = .ok a ↔ x = .ok a := by
  cases x <;> simp [Except.mapError]

theorem mapError_eq_error_iff {δ : Type} {x : Except ε α} {f : ε → δ} {d : δ} :
    x.mapError f = .error d ↔ ∃ e, x = .error e ∧ f e = d := by
  cases x <;> simp [Except.mapError]

theorem toOption_eq_some_iff {x : Except ε α} {a : α} : x.toOption = some a ↔ x = .ok a := by
  cases x <;> simp [Except.toOption]

/-- A traversal has a result if every step has one, and the result lists theirs. -/
theorem mapM_eq_ok_iff {f : α → Except ε β} {l : List α} {m : List β} :
    l.mapM f = .ok m ↔ List.Forall₂ (fun a b => f a = .ok b) l m := by
  induction l generalizing m with
  | nil => simp [pure, Except.pure, eq_comm]
  | cons a l ih =>
    rw [List.mapM_cons, List.forall₂_cons_left_iff]
    simp only [bind_eq_ok_iff, ih, pure, Except.pure, Except.ok.injEq]
    constructor
    · rintro ⟨b, hb, bs, hbs, rfl⟩
      exact ⟨b, bs, hb, hbs, rfl⟩
    · rintro ⟨b, bs, hb, hbs, rfl⟩
      exact ⟨b, hb, bs, hbs, rfl⟩

/-- Two lists are related by what a function sees of their members if it sees the same lists. -/
theorem forall₂_eq_iff_map_eq {γ : Type} {f : α → γ} {g : β → γ} {l : List α} {m : List β} :
    List.Forall₂ (fun a b => f a = g b) l m ↔ l.map f = m.map g := by
  rw [← List.forall₂_eq_eq_eq, List.forall₂_map_left_iff, List.forall₂_map_right_iff]

/-- What each step keeps of its argument, a traversal keeps of the list. -/
theorem map_eq_map_of_mapM_ok {γ : Type} {f : α → Except ε β} {g : β → γ} {h : α → γ} {l : List α}
    {m : List β} (step : ∀ a b, f a = .ok b → g b = h a) (run : l.mapM f = .ok m) :
    m.map g = l.map h :=
  (forall₂_eq_iff_map_eq.1 ((mapM_eq_ok_iff.1 run).imp fun a b hb => (step a b hb).symm)).symm

/-- A traversal whose steps compute a function maps the list by it. -/
theorem mapM_ok_eq_map {f : α → Except ε β} {g : α → β} {l : List α} {m : List β}
    (step : ∀ a b, f a = .ok b → b = g a) (run : l.mapM f = .ok m) : m = l.map g := by
  rw [← map_eq_map_of_mapM_ok step run, List.map_id']

/-- Each member of the second of two related lists is related to one of the first. -/
theorem exists_of_forall₂_mem {R : α → β → Prop} {l : List α} {m : List β}
    (h : List.Forall₂ R l m) {b : β} (hb : b ∈ m) : ∃ a ∈ l, R a b := by
  induction h with
  | nil => cases hb
  | cons head rest ih =>
    rcases List.mem_cons.1 hb with rfl | hb
    · exact ⟨_, by simp, head⟩
    · obtain ⟨a, ha, he⟩ := ih hb
      exact ⟨a, List.mem_cons_of_mem _ ha, he⟩

/-- Every result of a traversal is the result of a step. -/
theorem mem_of_mapM_ok {f : α → Except ε β} {l : List α} {m : List β} {b : β}
    (h : l.mapM f = .ok m) (hb : b ∈ m) : ∃ a ∈ l, f a = .ok b :=
  exists_of_forall₂_mem (mapM_eq_ok_iff.1 h) hb

/-- What each step keeps, a chain of steps keeps. -/
theorem foldlM_invariant {P : β → Prop} {f : β → α → Except ε β} {l : List α} {b c : β}
    (step : ∀ a ∈ l, ∀ b c, P b → f b a = .ok c → P c) (start : P b) (run : l.foldlM f b = .ok c) :
    P c := by
  induction l generalizing b with
  | nil =>
    cases run
    exact start
  | cons a l ih =>
    obtain ⟨first, others⟩ := List.forall_mem_cons.1 step
    rw [List.foldlM_cons] at run
    obtain ⟨next, stepped, rest⟩ := bind_eq_ok_iff.1 run
    exact ih others (first b next start stepped) rest

/-- A chain of steps has a result if every step has one, where that does not depend on the steps
before it. -/
theorem exists_foldlM_iff {P : α → Prop} {f : β → α → Except ε β}
    (step : ∀ a b, (∃ c, f b a = .ok c) ↔ P a) (l : List α) (b : β) :
    (∃ c, l.foldlM f b = .ok c) ↔ ∀ a ∈ l, P a := by
  induction l generalizing b with
  | nil => exact iff_of_true ⟨b, rfl⟩ nofun
  | cons a l ih =>
    simp only [List.foldlM_cons, bind_eq_ok_iff, List.forall_mem_cons]
    constructor
    · rintro ⟨c, next, stepped, rest⟩
      exact ⟨(step a b).1 ⟨next, stepped⟩, (ih next).1 ⟨c, rest⟩⟩
    · rintro ⟨first, others⟩
      obtain ⟨next, stepped⟩ := (step a b).2 first
      obtain ⟨c, rest⟩ := (ih next).2 others
      exact ⟨c, next, stepped, rest⟩

/-- The failure of a traversal is that of its first step that fails. -/
theorem fault?_mapM (f : α → Except ε β) (l : List α) :
    fault? (l.mapM f) = l.findSome? fun a => fault? (f a) := by
  induction l with
  | nil => rfl
  | cons a l ih =>
    rw [List.mapM_cons, List.findSome?_cons]
    cases h : f a with
    | error e => rfl
    | ok b =>
      rw [show fault? (Except.ok b : Except ε β) = none from rfl, ← ih]
      cases l.mapM f <;> rfl

end QueryPlan
