import QueryPlan.Proofs.Flags
import QueryPlan.Text.Blank

/-!
# Blanks

The tests for blanks compare the trimmed value of a column with the empty text, and `TRIM` drops
spaces only, not other white space. So a text counts as blank just if it consists of spaces. That is
what is meant, null or only white space, for every value but the texts of white space with a
character among them that is no space (`blanks_are_spaces`).
-/

namespace QueryPlan
set_option autoImplicit false
open Sql Sql.Statement

/-- A database that trims spaces from both ends and tells the empty text from the others. -/
structure Sql.Engine.TrimsSpaces (engine : Engine) : Prop where
  trim : ∀ s, engine.trim (.text s) = .text (withoutOuterSpaces s)
  empty : ∀ s, engine.compare .eq (.text s) (.text "") = some (decide (s = ""))
  nonempty : ∀ s, engine.compare .ne (.text s) (.text "") = some (decide (s ≠ ""))

/-- Whether a value that may be null is null or only white space. Otherwise it has a character that
is no white space. -/
def Text.Blank (x : Option String) : Prop := ∀ s ∈ x, ∀ c ∈ s.toList, isBlank c = true

/-- Whether a value that may be null is null or only spaces. -/
def Text.Spaces (x : Option String) : Prop := ∀ s ∈ x, ∀ c ∈ s.toList, c = ' '

theorem Text.Spaces.blank {x : Option String} (h : Spaces x) : Blank x := by
  intro s hs c hc
  rw [h s hs c hc]
  rfl

theorem Sql.withoutOuterSpaces_eq_empty_iff {s : String} :
    withoutOuterSpaces s = "" ↔ ∀ c ∈ s.toList, c = ' ' := by
  have outer : withoutOuterSpaces s = "" ↔
      ∀ c ∈ s.toList.dropWhile (· = ' '), decide (c = ' ') = true := by
    rw [withoutOuterSpaces, ← String.toList_inj, String.toList_ofList]
    exact List.rdropWhile_eq_nil_iff
  have parts : ∀ c, c ∈ s.toList ↔
      c ∈ s.toList.takeWhile (· = ' ') ∨ c ∈ s.toList.dropWhile (· = ' ') := fun c => by
    rw [← List.mem_append, List.takeWhile_append_dropWhile]
  rw [outer]
  constructor
  · intro inner c hc
    obtain first | rest := (parts c).1 hc
    · have here : decide (c = ' ') = true := List.mem_takeWhile_imp (p := (· = ' ')) first
      exact of_decide_eq_true here
    · exact of_decide_eq_true (inner c rest)
  · intro spaces c hc
    exact decide_eq_true (spaces c ((parts c).2 (.inr hc)))

/-! ### What the tests tell -/

section
variable {engine : Engine} (h : engine.TrimsSpaces) {row : Row} {field : String} {x : Option String}
  (value : row field = x.map Value.text) (params : List Value)
include h value

theorem truth_blank : Filter.truth engine row params (.or (.isNull (.column field))
    (.compare .eq (.trim (.column field)) (.literal ""))) = some true ↔ Text.Spaces x := by
  unfold Text.Spaces
  cases x with
  | none => simp [value, Truth.or_eq_true]
  | some s =>
    simp [value, Truth.or_eq_true, h.trim, h.empty, withoutOuterSpaces_eq_empty_iff]

theorem truth_present : Filter.truth engine row params (.and (.not (.isNull (.column field)))
    (.compare .ne (.trim (.column field)) (.literal ""))) = some true ↔ ¬ Text.Spaces x := by
  unfold Text.Spaces
  cases x with
  | none => simp [value, Truth.and_eq_true, Truth.not]
  | some s =>
    simp [value, Truth.and_eq_true, Truth.not, h.trim, h.nonempty, withoutOuterSpaces_eq_empty_iff]

end

/-- **Blanks are spaces.** In every dialect the test for a blank value is true of null and of the
texts of spaces, and the test for a present value is true of the other texts. Both mean what they
are meant to, null or only white space and the opposite of that, just where white space is nothing
but spaces. -/
theorem blanks_are_spaces {engine : Engine} (trims : engine.TrimsSpaces) (field : String)
    (d : Dialect) :
    ∃ f g, operandOf? d (text d (Condition.pieces ⟨field, .blank, .none⟩)) = some f ∧
      operandOf? d (text d (Condition.pieces ⟨field, .present, .none⟩)) = some g ∧
      ∀ (row : Row) params (x : Option String), row field = x.map Value.text →
        (f.truth engine row params = some true ↔ Text.Spaces x) ∧
        (g.truth engine row params = some true ↔ ¬ Text.Spaces x) ∧
        ((f.truth engine row params = some true ↔ Text.Blank x) ∧
            (g.truth engine row params = some true ↔ ¬ Text.Blank x) ↔
          (Text.Blank x → Text.Spaces x)) := by
  refine ⟨_, _, Condition.operandOf?_blank d field, Condition.operandOf?_present d field,
    fun row params x value => ?_⟩
  have blank := truth_blank trims value params
  have present := truth_present trims value params
  refine ⟨blank, present, ?_⟩
  rw [blank, present]
  constructor
  · rintro ⟨meant, -⟩
    exact meant.2
  · intro spaces
    have meant : Text.Spaces x ↔ Text.Blank x := ⟨Text.Spaces.blank, spaces⟩
    exact ⟨meant, not_congr meant⟩

namespace Sample

theorem textual_trimsSpaces : textual.TrimsSpaces where
  trim _ := rfl
  empty _ := rfl
  nonempty _ := rfl

end Sample

open Sample in
/-- Two spaces are blank and not present. -/
theorem spaces_blank : textual.TrimsSpaces ∧ Text.Spaces (some "  ") ∧
    ∃ f g, operandOf? .mysql (text .mysql (Condition.pieces ⟨"title", .blank, .none⟩)) = some f ∧
      operandOf? .mysql (text .mysql (Condition.pieces ⟨"title", .present, .none⟩)) = some g ∧
      f.truth textual (fun _ => some (.text "  ")) [] = some true ∧
      g.truth textual (fun _ => some (.text "  ")) [] ≠ some true := by
  have spaces : Text.Spaces (some "  ") := by
    rintro _ ⟨⟩
    exact List.forall_mem_cons.2 ⟨rfl, List.forall_mem_singleton.2 rfl⟩
  obtain ⟨f, g, blank, present, tells⟩ := blanks_are_spaces textual_trimsSpaces "title" .mysql
  obtain ⟨first, second, -⟩ := tells (fun _ => some (.text "  ")) [] (some "  ") rfl
  exact ⟨textual_trimsSpaces, spaces, f, g, blank, present, first.2 spaces,
    fun met => second.1 met spaces⟩

open Sample in
/-- A tab is white space, and yet it counts as present and not as blank. -/
theorem tab_present : textual.TrimsSpaces ∧ Text.Blank (some "\t") ∧
    ∃ f g, operandOf? .postgres (text .postgres (Condition.pieces ⟨"title", .blank, .none⟩)) =
        some f ∧
      operandOf? .postgres (text .postgres (Condition.pieces ⟨"title", .present, .none⟩)) =
        some g ∧
      f.truth textual (fun _ => some (.text "\t")) [] = some false ∧
      g.truth textual (fun _ => some (.text "\t")) [] = some true := by
  have blank : Text.Blank (some "\t") := by
    rintro _ ⟨⟩
    exact List.forall_mem_singleton.2 rfl
  exact ⟨textual_trimsSpaces, blank, _, _, Condition.operandOf?_blank .postgres "title",
    Condition.operandOf?_present .postgres "title", by decide +kernel, by decide +kernel⟩

end QueryPlan
