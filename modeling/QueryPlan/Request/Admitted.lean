import QueryPlan.Error
import QueryPlan.Request.Basic
import QueryPlan.Settings.Basic

/-!
# Admission

The first look at a request: every input must be permitted and a map, no OR-group may be empty, and
the whole must stay within the ceilings. A null filter map means that there are no filters. What is
admitted is a list of maps and the sort keys.
-/

namespace QueryPlan
set_option autoImplicit false

/-- The entries of a map. -/
abbrev Fields := List (String × Json)

/-- A request of which every input is a map that may be used. -/
structure Admitted where
  /-- The filter maps. -/
  filters : List Fields
  /-- The OR-groups, none of them empty. -/
  groups : List Fields
  /-- The sort keys. -/
  sort : List String

/-- The map that an input must be. -/
def Input.fields (what : String) (i : Input) : Except QueryError Fields :=
  if i.permission.allowsUse then
    match i.value with
    | .map fields => .ok fields
    | v => .error (Cause.requestShape (.inputNotMap what v.kind)).toError
  else .error (Cause.unpermitted what).toError

/-- Whether an input says that there are no filters. -/
def Input.isAbsent (i : Input) : Bool := i.permission.allowsUse && i.value.kind = .null

/-- The map of an OR-group with its index. -/
def Input.groupFields (i : Input) (index : Nat) : Except QueryError Fields := do
  let fields ← i.fields "OR-group"
  if fields.isEmpty then .error (Cause.requestShape (.emptyGroup index)).toError else .ok fields

/-- The admitted form of a request; filter maps are looked at before OR-groups. -/
def Request.admit (r : Request) : Except QueryError Admitted := do
  let filters ← (r.filters.filter fun i => !i.isAbsent).mapM (Input.fields "predicates")
  let groups ← r.groups.zipIdx.mapM fun entry => entry.1.groupFields entry.2
  .ok ⟨filters, groups, r.sort⟩

namespace Admitted

/-- The number of filter keys, repeated ones counted each time. -/
def keyCount (a : Admitted) : Nat := (a.filters ++ a.groups).flatten.length

/-- Refuses a request that exceeds a ceiling. -/
def checkSize (a : Admitted) (limits : RequestLimits) : Except QueryError Unit :=
  if limits.maxTotalPredicates < a.keyCount then
    .error (Cause.tooManyPredicates a.keyCount limits.maxTotalPredicates).toError
  else if limits.maxGroups < a.groups.length then
    .error (Cause.tooManyGroups a.groups.length limits.maxGroups).toError
  else if limits.maxSortKeys < a.sort.length then
    .error (Cause.tooManySortKeys a.sort.length limits.maxSortKeys).toError
  else .ok ()

end Admitted
end QueryPlan
