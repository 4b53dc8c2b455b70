import QueryPlan.Proofs.Calendar.Order
import QueryPlan.Proofs.Filtering

/-!
# Filtering by time

A column of canonical texts is filtered by time although the database knows nothing of it. It
compares texts by their bytes (`Engine.ComparesBytes`), and for years of four digits the bytes of
what dates and timestamps are bound as are in the order of what these denote. So a key that tests
for a range selects a row just if the time in its column is in that range (`OrdersBy`). That reading
and writing do so is one argument for both types (`ordersBy_of`); `temporal_chronological` has it of
dates, ordered by their days, and of timestamps, ordered by the points in time.
-/

namespace QueryPlan
set_option autoImplicit false
open Sql

/-! ### Databases that compare bytes -/

namespace Sql

/-- What a comparison sign says of two points of an order. -/
def Comparison.decides {β : Type} [LT β] [DecidableLT β] [DecidableEq β] (a b : β) :
    Comparison → Bool
  | .eq => a = b
  | .ne => a ≠ b
  | .lt => a < b
  | .le => ¬ b < a
  | .gt => b < a
  | .ge => ¬ a < b

theorem Comparison.decides_congr {β γ : Type} [LT β] [DecidableLT β] [DecidableEq β] [LT γ]
    [DecidableLT γ] [DecidableEq γ] {a b : β} {c d : γ} (less : a < b ↔ c < d)
    (more : b < a ↔ d < c) (same : a = b ↔ c = d) (op : Comparison) :
    op.decides a b = op.decides c d := by
  cases op <;> simp [decides, less, more, same]

/-- A database that compares texts by their bytes, from the left. -/
structure Engine.ComparesBytes (engine : Engine) : Prop where
  texts (op : Comparison) (s t : String) :
    engine.compare op (.text s) (.text t) = some (op.decides (Text.utf8 s) (Text.utf8 t))

end Sql

/-- Of a value that is not null, the condition on its column. -/
theorem Condition.holds_iff {engine : Engine} {row : Row} {c : Condition} {x : Value}
    (column : row c.field = some x) : c.Holds engine row ↔ c.Accepts engine x := by
  rw [Holds, Satisfies, column]

namespace KnownKey
variable {limits : RequestLimits} {k : KnownKey}

theorem condition_of_scalar {v : Value} (form : k.kind.form = .scalar)
    (bound : k.scalar k.operand = .ok v) :
    k.condition limits = .ok (k.holding k.kind (.one v)) := by
  rw [condition_eq]
  rw [form, bound]
  rfl

theorem condition_of_range {low high : Json} {v w : Value} (form : k.kind.form = .range)
    (operand : k.operand = .list [low, high]) (first : k.scalar low = .ok v)
    (second : k.scalar high = .ok w) :
    k.condition limits = .ok (k.holding k.kind (.range v w)) := by
  rw [condition_eq]
  rw [form, bounds_eq_ok_iff.2 operand]
  show (k.scalar low >>= _) = _
  rw [first]
  show (k.scalar high >>= _) = _
  rw [second]
  rfl

end KnownKey

namespace Coercion
variable {α β : Type} [LinearOrder β]

/-- What the operand of a key that tests for a range says of a point `x` of an order. -/
inductive RangeTest (Operand : String → α → Prop) (time : α → β) (x : β) :
    PredicateKind → Json → Prop → Prop where
  | lt {s : String} {a : α} : Operand s a → RangeTest Operand time x .lt (.text s) (x < time a)
  | lte {s : String} {a : α} : Operand s a → RangeTest Operand time x .lte (.text s) (x ≤ time a)
  | gt {s : String} {a : α} : Operand s a → RangeTest Operand time x .gt (.text s) (time a < x)
  | gte {s : String} {a : α} : Operand s a → RangeTest Operand time x .gte (.text s) (time a ≤ x)
  | between {s t : String} {low high : α} : Operand s low → Operand t high →
      RangeTest Operand time x .between (.list [.text s, .text t]) (time low ≤ x ∧ x ≤ time high)
  | notBetween {s t : String} {low high : α} : Operand s low → Operand t high →
      RangeTest Operand time x .notBetween (.list [.text s, .text t])
        (x < time low ∨ time high < x)

/-- If operands are bound as texts that compare with the text in a column like the points that are
denoted, the condition of such a key holds just if the point in the column is in the range. -/
theorem RangeTest.selects {Operand : String → α → Prop} {time : α → β} {x : β} {engine : Engine}
    {row : Row} {limits : RequestLimits} {k : KnownKey} {stored : String} {meaning : Prop}
    (column : row k.field.name = some (.text stored))
    (compares : ∀ {s a}, Operand s a →
      ∃ t, (∀ key, scalar key k.field.type (.text s) = .ok (.text t)) ∧
        ∀ op, engine.compare op (.text stored) (.text t) = some (op.decides x (time a)))
    (test : RangeTest Operand time x k.kind k.operand meaning) :
    ∃ c, k.condition limits = .ok c ∧ (c.Holds engine row ↔ meaning) := by
  obtain ⟨name, field, kind, operand⟩ := k
  cases test with
  | lt h | lte h | gt h | gte h =>
    obtain ⟨t, bound, compared⟩ := compares h
    refine ⟨_, KnownKey.condition_of_scalar rfl (bound name), ?_⟩
    rw [Condition.holds_iff column]
    simp [KnownKey.holding, Condition.Accepts, compared, Comparison.decides]
  | between first second | notBetween first second =>
    obtain ⟨t, bound, compared⟩ := compares first
    obtain ⟨t', bound', compared'⟩ := compares second
    refine ⟨_, KnownKey.condition_of_range rfl rfl (bound name) (bound' name), ?_⟩
    rw [Condition.holds_iff column]
    simp [KnownKey.holding, Condition.Accepts, compared, compared', Comparison.decides]

/-- Strings are operands of a storage type by what they denote: the texts that they are bound as
are in the order of `time`, as far as what they denote is `common`. -/
structure OrdersBy (type : StorageType) (Denotes : String → α → Prop) (time : α → β)
    (common : α → Prop) : Prop where
  /-- What is accepted denotes something. -/
  denotes {key s : String} {v : Value} : scalar key type (.text s) = .ok v → ∃ a, Denotes s a
  /-- The bytes of what is bound are in the order of what is denoted. -/
  bytes {key key' s s' : String} {v v' : Value} {a a' : α} :
    scalar key type (.text s) = .ok v → scalar key' type (.text s') = .ok v' →
    Denotes s a → Denotes s' a' → common a → common a' →
    ∃ t t', v = .text t ∧ v' = .text t' ∧ (Text.utf8 t < Text.utf8 t' ↔ time a < time a') ∧
      (Text.utf8 t = Text.utf8 t' ↔ time a = time a')
  /-- A column of such texts is filtered by the order of what is denoted. -/
  selects {engine : Engine} {row : Row} {limits : RequestLimits} {k : KnownKey}
    {key s stored : String} {a : α} {meaning : Prop} : engine.ComparesBytes →
    scalar key type (.text s) = .ok (.text stored) → Denotes s a → common a →
    row k.field.name = some (.text stored) → k.field.type = type →
    RangeTest (fun s b => Denotes s b ∧ common b) time (time a) k.kind k.operand meaning →
    ∃ c, k.condition limits = .ok c ∧ (c.Holds engine row ↔ meaning)

/-- Reading and writing order operands if what is written has bytes in the order of what was
read. -/
theorem ordersBy_of {γ : Type} {type : StorageType} {Denotes : String → α → Prop} {time : α → β}
    {common : α → Prop} {read? : String → Option γ} {write : γ → String} {value : γ → α}
    (coerced : ∀ s, value? type (.text s) = (read? s).map fun b => .text (write b))
    (denotes : ∀ {s a}, Denotes s a ↔ ∃ b, read? s = some b ∧ value b = a)
    (injective : ∀ {s s' b c}, read? s = some b → read? s' = some c →
      time (value b) = time (value c) → b = c)
    (order : ∀ {s s' b c}, read? s = some b → read? s' = some c → common (value b) →
      common (value c) →
      (Text.utf8 (write b) < Text.utf8 (write c) ↔ time (value b) < time (value c))) :
    OrdersBy type Denotes time common := by
  have bound {key s : String} {v : Value} :
      scalar key type (.text s) = .ok v ↔ ∃ b, read? s = some b ∧ .text (write b) = v := by
    rw [scalar_text_eq_ok_iff, coerced, Option.map_eq_some_iff]
  have same {s s' : String} {b c : γ} (read : read? s = some b) (read' : read? s' = some c)
      (years : common (value b)) (years' : common (value c)) :
      Text.utf8 (write b) = Text.utf8 (write c) ↔ time (value b) = time (value c) := by
    constructor
    · intro bytes
      have forward := order read read' years years'
      have backward := order read' read years' years
      rw [bytes] at forward backward
      exact le_antisymm (not_lt.1 (backward.2.mt (List.lt_irrefl _)))
        (not_lt.1 (forward.2.mt (List.lt_irrefl _)))
    · intro times
      rw [injective read read' times]
  constructor
  case denotes =>
    intro key s v h
    obtain ⟨b, read, -⟩ := bound.1 h
    exact ⟨value b, denotes.2 ⟨b, read, rfl⟩⟩
  case bytes =>
    intro key key' s s' v v' a a' h h' denoted denoted' years years'
    obtain ⟨b, read, rfl⟩ := bound.1 h
    obtain ⟨c, read', rfl⟩ := bound.1 h'
    obtain ⟨_, again, rfl⟩ := denotes.1 denoted
    obtain ⟨_, again', rfl⟩ := denotes.1 denoted'
    cases read.symm.trans again
    cases read'.symm.trans again'
    exact ⟨_, _, rfl, rfl, order read read' years years', same read read' years years'⟩
  case selects =>
    intro engine row limits k key s stored a meaning compares accepted denoted years column field
      test
    obtain ⟨b, read, written⟩ := bound.1 accepted
    obtain rfl := Value.text.inj written
    obtain ⟨_, again, rfl⟩ := denotes.1 denoted
    cases read.symm.trans again
    subst field
    refine test.selects column fun {s' a'} ⟨denoted, years'⟩ => ?_
    obtain ⟨c, read', rfl⟩ := denotes.1 denoted
    refine ⟨write c, fun key => bound.2 ⟨c, read', rfl⟩, fun op => ?_⟩
    rw [compares.texts, Comparison.decides_congr (order read read' years years')
      (order read' read years' years) (same read read' years years')]

theorem ordersBy_dates :
    OrdersBy .date DenotesDate Calendar.Date.dayNumber Calendar.Date.FourDigits := by
  apply ordersBy_of value?_date denotesDate_iff
  · intro s s' d e read read' same
    exact Calendar.Date.dayNumber_injective (Calendar.isValid_of_date? read)
      (Calendar.isValid_of_date? read') same
  · intro s s' d e read read' years years'
    exact Calendar.Date.utf8_lt_iff (Calendar.isValid_of_date? read)
      (Calendar.isValid_of_date? read') years years'

theorem ordersBy_timestamps :
    OrdersBy .datetime DenotesInstant Calendar.Instant.time Calendar.Instant.FourDigits := by
  apply ordersBy_of value?_timestamp denotesInstant_iff
  · intro s s' t u read read' same
    exact Calendar.Timestamp.instant_injective (Calendar.isValid_of_timestamp? read)
      (Calendar.isValid_of_timestamp? read') (Calendar.Instant.time_injective same)
  · intro s s' t u read read' years years'
    have valid := Calendar.isValid_of_timestamp? read
    have valid' := Calendar.isValid_of_timestamp? read'
    exact Calendar.Timestamp.utf8_lt_iff valid valid'
      (Calendar.Timestamp.fourDigits_of_instant valid years)
      (Calendar.Timestamp.fourDigits_of_instant valid' years')

/-- Columns of dates are filtered by their days and columns of timestamps by points in time. -/
theorem temporal_chronological :
    OrdersBy .date DenotesDate Calendar.Date.dayNumber Calendar.Date.FourDigits ∧
      OrdersBy .datetime DenotesInstant Calendar.Instant.time Calendar.Instant.FourDigits :=
  ⟨ordersBy_dates, ordersBy_timestamps⟩

end Coercion

namespace Sample

/-- A database that compares texts by their bytes. -/
def bytewise : Engine where
  compare
    | op, .text s, .text t => some (op.decides (Text.utf8 s) (Text.utf8 t))
    | _, _, _ => none
  lower := id
  trim := id
  like _ _ _ := none

theorem bytewise_comparesBytes : bytewise.ComparesBytes := ⟨fun _ _ _ => rfl⟩

/-- A search for what was before the year 2017. -/
def beforeNewYear : KnownKey where
  key := "at_lt"
  field := ⟨"at", .datetime, false⟩
  kind := .lt
  operand := .text "2017-1-1"

end Sample

namespace Coercion

open Sample in
/-- A leap second with a fraction, told in a zone where the year has begun already, is bound as a
text before the one of the day that begins with the year in UTC. So a row of that second is found by
a search for what was before the day. -/
theorem leap_second_before_midnight :
    ∃ i j, DenotesInstant "2017-01-01T00:59:60.5+01:00" i ∧ DenotesInstant "2017-1-1" j ∧
      (Text.utf8 "2016-12-31 23:59:60.500" < Text.utf8 "2017-01-01 00:00:00" ↔
        i.time < j.time) ∧
      ∀ row : Row, row "at" = some (.text "2016-12-31 23:59:60.500") →
        ∃ c, beforeNewYear.condition {} = .ok c ∧ c.Holds bytewise row := by
  let leap : Calendar.Timestamp := ⟨⟨2016, 12, 31⟩, ⟨23, 59, 60, 500000000⟩⟩
  let midnight : Calendar.Timestamp := ⟨⟨2017, 1, 1⟩, ⟨0, 0, 0, 0⟩⟩
  have accepted : scalar "at_lt" .datetime (.text "2017-01-01T00:59:60.5+01:00") =
      .ok (.text "2016-12-31 23:59:60.500") :=
    scalar_text_eq_ok_iff.2 (by decide +kernel)
  have accepted' : scalar "at_lt" .datetime (.text "2017-1-1") =
      .ok (.text "2017-01-01 00:00:00") :=
    scalar_text_eq_ok_iff.2 (by decide +kernel)
  have denoted : DenotesInstant "2017-01-01T00:59:60.5+01:00" leap.instant :=
    denotesInstant_iff.2 ⟨leap, by decide +kernel, rfl⟩
  have denoted' : DenotesInstant "2017-1-1" midnight.instant :=
    denotesInstant_iff.2 ⟨midnight, by decide +kernel, rfl⟩
  have years : leap.instant.FourDigits := ⟨leap, by decide, rfl, by decide, by decide⟩
  have years' : midnight.instant.FourDigits := ⟨midnight, by decide, rfl, by decide, by decide⟩
  have earlier : leap.instant.time < midnight.instant.time := by decide
  obtain ⟨t, u, first, second, order, -⟩ :=
    temporal_chronological.2.bytes accepted accepted' denoted denoted' years years'
  obtain rfl := Value.text.inj first
  obtain rfl := Value.text.inj second
  refine ⟨leap.instant, midnight.instant, denoted, denoted', order, fun row stored => ?_⟩
  have test : RangeTest (fun s i => DenotesInstant s i ∧ i.FourDigits) Calendar.Instant.time
      leap.instant.time .lt (.text "2017-1-1") (leap.instant.time < midnight.instant.time) :=
    .lt ⟨denoted', years'⟩
  obtain ⟨c, compiled, selected⟩ : ∃ c, beforeNewYear.condition {} = .ok c ∧
      (c.Holds bytewise row ↔ leap.instant.time < midnight.instant.time) :=
    temporal_chronological.2.selects bytewise_comparesBytes accepted denoted years stored rfl test
  exact ⟨c, compiled, selected.2 earlier⟩

end Coercion
end QueryPlan
