import QueryPlan.Json
import QueryPlan.Settings.Basic

/-!
# Settings as structured values

A record of settings is written as a map, in which every key is optional and no other key may
stand, or as the list of its values in order, whose end may be missing. Formats differ in whether a
list may be longer than the record has fields.
-/

namespace QueryPlan.Settings
set_option autoImplicit false
open Number

/-- What a format does with list items beyond the last field. -/
inductive Surplus where
  /-- Items beyond the last field are refused. -/
  | refused
  /-- Items beyond the last field are ignored. -/
  | ignored
  deriving DecidableEq, Repr

/-- Sets one named field of a record from its value, if the record has it and the value fits. -/
abbrev FieldSetter (α : Type) := String → Json → α → Option α

/-- A record read from its map or list form, starting from its defaults. -/
def decodeRecord {α : Type} (surplus : Surplus) (names : List String) (set : FieldSetter α)
    (default : α) (v : Json) : Option α :=
  let fill (fields : List (String × Json)) : Option α :=
    fields.foldlM (fun record field => set field.1 field.2 record) default
  match v with
  | .map fields => fill fields
  | .list items =>
    if surplus = .refused ∧ names.length < items.length then none else fill (names.zip items)
  | _ => none

/-- An unsigned 64-bit number. -/
def natural? : Json → Option Nat
  | .int n => if 0 ≤ n ∧ n ≤ maxUnsigned then some n.toNat else none
  | _ => none

/-- A truth value. -/
def bool? : Json → Option Bool
  | .bool b => some b
  | _ => none

/-- The fields of page limits in order. -/
def pageLimitNames : List String := ["default_per_page", "max_per_page", "max_page"]

/-- Sets one of the page limits. -/
def setPageLimit : FieldSetter PageLimits := fun name v limits =>
  match name with
  | "default_per_page" => (natural? v).map fun n => { limits with defaultPerPage := n }
  | "max_per_page" => (natural? v).map fun n => { limits with maxPerPage := n }
  | "max_page" => (natural? v).map fun n => { limits with maxPage := n }
  | _ => none

/-- Page limits from their map or list form. -/
def pageLimits? (surplus : Surplus) (v : Json) : Option PageLimits :=
  decodeRecord surplus pageLimitNames setPageLimit {} v

/-- The fields of request limits in order. -/
def requestLimitNames : List String :=
  ["max_total_predicates", "max_or_groups", "max_sort_keys", "max_list_values"]

/-- Sets one of the request limits. -/
def setRequestLimit : FieldSetter RequestLimits := fun name v limits =>
  match name with
  | "max_total_predicates" => (natural? v).map fun n => { limits with maxTotalPredicates := n }
  | "max_or_groups" => (natural? v).map fun n => { limits with maxGroups := n }
  | "max_sort_keys" => (natural? v).map fun n => { limits with maxSortKeys := n }
  | "max_list_values" => (natural? v).map fun n => { limits with maxListValues := n }
  | _ => none

/-- Request limits from their map or list form. -/
def requestLimits? (surplus : Surplus) (v : Json) : Option RequestLimits :=
  decodeRecord surplus requestLimitNames setRequestLimit {} v

/-- The fields of settings in order. -/
def settingNames : List String := ["strict_predicates", "strict_mode", "pagination", "limits"]

/-- Sets one of the settings. -/
def setSetting (surplus : Surplus) : FieldSetter Settings := fun name v settings =>
  match name with
  | "strict_predicates" => (bool? v).map fun b => { settings with strictPredicates := b }
  | "strict_mode" => (bool? v).map fun b => { settings with strictMode := b }
  | "pagination" => (pageLimits? surplus v).map fun p => { settings with pagination := p }
  | "limits" => (requestLimits? surplus v).map fun l => { settings with limits := l }
  | _ => none

/-- Settings from their map or list form. -/
def ofJson? (surplus : Surplus) (v : Json) : Option Settings :=
  decodeRecord surplus settingNames (setSetting surplus) {} v

/-- Page limits in their map form. -/
def pageLimitsJson (p : PageLimits) : Json :=
  .map [("default_per_page", .int p.defaultPerPage), ("max_per_page", .int p.maxPerPage),
    ("max_page", .int p.maxPage)]

/-- Request limits in their map form. -/
def requestLimitsJson (l : RequestLimits) : Json :=
  .map [("max_total_predicates", .int l.maxTotalPredicates), ("max_or_groups", .int l.maxGroups),
    ("max_sort_keys", .int l.maxSortKeys), ("max_list_values", .int l.maxListValues)]

/-- Settings in their map form. -/
def toJson (s : Settings) : Json :=
  .map [("strict_predicates", .bool s.strictPredicates), ("strict_mode", .bool s.strictMode),
    ("pagination", pageLimitsJson s.pagination), ("limits", requestLimitsJson s.limits)]

end QueryPlan.Settings
