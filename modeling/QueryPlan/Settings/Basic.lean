import QueryPlan.Page

/-!
# Settings

The limits and the strictness that requests are compiled under, and the check that they are usable.
-/

namespace QueryPlan
set_option autoImplicit false
open Number

/-- The ceilings on the size of a request. -/
structure RequestLimits where
  /-- Filter keys at the top level and in all OR-groups. -/
  maxTotalPredicates : Nat := 100
  /-- OR-groups. -/
  maxGroups : Nat := 50
  /-- Sort keys. -/
  maxSortKeys : Nat := 10
  /-- Members of one list operand. -/
  maxListValues : Nat := 500
  deriving DecidableEq, Repr

/-- The settings that requests are compiled under. -/
structure Settings where
  /-- Whether unknown filter keys and sort keys are errors. -/
  strictPredicates : Bool := false
  /-- Whether everything that could be left out is an error. -/
  strictMode : Bool := false
  /-- The limits on pages. -/
  pagination : PageLimits := {}
  /-- The ceilings on the size of a request. -/
  limits : RequestLimits := {}
  deriving DecidableEq, Repr

/-- Whether unknown keys are errors rather than left out. -/
def Settings.isStrict (s : Settings) : Bool := s.strictMode || s.strictPredicates

/-- Why settings cannot be used. -/
inductive SettingsFault where
  /-- A page size is zero. -/
  | zeroPageSize
  /-- The page size without a request is larger than the largest one. -/
  | defaultAboveLargest (default largest : Nat)
  /-- The largest page number is zero or beyond a signed word. -/
  | badMaxPage
  /-- The ceiling on filter keys or on list members is zero. -/
  | zeroCeiling
  deriving DecidableEq, Repr

/-- The wording of a fault. -/
def SettingsFault.message : SettingsFault → String
  | .zeroPageSize => "page sizes must be at least 1"
  | .defaultAboveLargest default largest =>
    "default_per_page (" ++ Nat.repr default ++ ") exceeds max_per_page (" ++ Nat.repr largest ++
      ")"
  | .badMaxPage => "max_page must be between 1 and " ++ intText maxSigned
  | .zeroCeiling => "max_total_predicates and max_list_values must be at least 1"

/-- The first reason why settings cannot be used. -/
def Settings.fault? (s : Settings) : Option SettingsFault :=
  let p := s.pagination
  if p.maxPerPage = 0 ∨ p.defaultPerPage = 0 then some .zeroPageSize
  else if p.maxPerPage < p.defaultPerPage then
    some (.defaultAboveLargest p.defaultPerPage p.maxPerPage)
  else if p.maxPage = 0 ∨ maxSigned < p.maxPage then some .badMaxPage
  else if s.limits.maxTotalPredicates = 0 ∨ s.limits.maxListValues = 0 then some .zeroCeiling
  else none

/-- Why settings could not be loaded. -/
inductive SettingsError where
  /-- The file could not be read. -/
  | unreadable (path : String)
  /-- The document is malformed or does not describe settings. -/
  | malformed
  /-- The values cannot be used. -/
  | unusable (fault : SettingsFault)
  deriving DecidableEq, Repr

/-- Refuses settings that cannot be used. -/
def Settings.validate (s : Settings) : Except SettingsError Settings :=
  match s.fault? with
  | some fault => .error (.unusable fault)
  | none => .ok s

end QueryPlan
