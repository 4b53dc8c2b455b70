import QueryPlan.Json

/-!
# Requests

What a caller asks for, exactly as it arrived: filter maps, OR-groups, sort keys and page numbers.
Nothing is checked against a registry yet. Each map keeps where it came from, so that parameters
that were never permitted can be refused.
-/

namespace QueryPlan
set_option autoImplicit false

/-- Whether input may be used. -/
inductive Permission where
  /-- Input to which permission does not apply. -/
  | inherent
  /-- Parameters that were permitted. -/
  | permitted
  /-- Parameters that were not permitted. -/
  | unpermitted
  deriving DecidableEq, Repr

/-- Whether input with a permission may be used. -/
def Permission.allowsUse (p : Permission) : Bool := p != .unpermitted

/-- A value from a caller with its permission. -/
structure Input where
  /-- The value as it was supplied. -/
  value : Json
  /-- Whether it may be used. -/
  permission : Permission

/-- Input to which permission does not apply. -/
def Input.inherent (value : Json) : Input := ⟨value, .inherent⟩

/-- Parameters from an untrusted boundary. -/
structure Params where
  /-- The value as it was supplied. -/
  value : Json
  permitted : Bool

namespace Params

/-- Parameters as they arrive, not permitted. -/
def ofJson (value : Json) : Params := ⟨value, false⟩

/-- The same parameters, permitted. -/
def permit (p : Params) : Params := { p with permitted := true }

/-- The parameters under a key, permitted as much as these are. -/
def get? (p : Params) (key : String) : Option Params :=
  (p.value.get? key).map fun value => ⟨value, p.permitted⟩

/-- The permission of parameters. -/
def permission (p : Params) : Permission := if p.permitted then .permitted else .unpermitted

/-- Parameters as input to a request. -/
def input (p : Params) : Input := ⟨p.value, p.permission⟩

end Params

/-- What a caller asks for. -/
structure Request where
  /-- Filter maps that must all hold, in the order in which they were added. -/
  filters : List Input := []
  /-- OR-groups in the order in which they were added. -/
  groups : List Input := []
  /-- Sort keys, the most significant first. -/
  sort : List String := []
  page : Option Int := none
  perPage : Option Int := none

namespace Request

/-- The request with one more filter map. -/
def addFilters (r : Request) (input : Input) : Request := { r with filters := r.filters ++ [input] }

/-- The request with one more filter. -/
def addFilter (r : Request) (key : String) (operand : Json) : Request :=
  r.addFilters (.inherent (.map [(key, operand)]))

/-- The request with one more OR-group. -/
def addGroup (r : Request) (input : Input) : Request := { r with groups := r.groups ++ [input] }

/-- The request with one more sort key. -/
def addSort (r : Request) (key : String) : Request := { r with sort := r.sort ++ [key] }

/-- The request for a page number. -/
def withPage (r : Request) (page : Int) : Request := { r with page := some page }

/-- The request for a page size. -/
def withPerPage (r : Request) (perPage : Int) : Request := { r with perPage := some perPage }

end Request
end QueryPlan
