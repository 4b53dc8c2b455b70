import QueryPlan.Proofs.Integers
import QueryPlan.Proofs.Traversal
import QueryPlan.Sqlite.Options

/-!
# Settings in connection URLs

What the option text of a URL says, told apart from how it is read: each segment between ampersands
writes a setting, as a key, an equals sign and a value (`Setting.Written`), or has no equals sign
and says nothing. `setSegment_written` and `exists_setSegment_iff` say what reading a segment does,
and `ofUrl_eq` takes a URL apart into its place and its segments.
-/

namespace QueryPlan
set_option autoImplicit false
open Number

/-! ### Values -/

namespace Text

/-- Whether two texts are the same but for the case of their ASCII letters. -/
def SameLetters (s t : String) : Prop :=
  List.Forall₂ (fun c d => Char.toLower c = Char.toLower d) s.toList t.toList

theorem lower_eq_lower_iff {s t : String} : lower s = lower t ↔ SameLetters s t := by
  rw [lower, lower, ← String.toList_inj, String.toList_ofList, String.toList_ofList]
  exact forall₂_eq_iff_map_eq.symm

end Text

namespace Number

/-- The natural number that a numeral without a minus sign denotes. -/
inductive IsUnsigned : List Char → Nat → Prop where
  | bare {digits : List Char} (run : IsDigits digits) : IsUnsigned digits (ofDigits digits)
  | plus {digits : List Char} (run : IsDigits digits) : IsUnsigned ('+' :: digits) (ofDigits digits)

theorem IsUnsigned.isNumeral {s : List Char} {n : Nat} (h : IsUnsigned s n) : IsNumeral s n := by
  cases h with
  | bare run => exact .unsigned run
  | plus run => exact .plus run

/-- A numeral denotes one integer. -/
theorem IsNumeral.unique {s : List Char} {m n : Int} (h : IsNumeral s m) (h' : IsNumeral s n) :
    m = n := by
  have read := integer?_eq_some_iff.2 h
  rw [integer?_eq_some_iff.2 h'] at read
  exact (Option.some.inj read).symm

theorem boundedNatural?_eq_some_iff {bound n : Nat} {s : List Char} :
    boundedNatural? bound s = some n ↔ IsUnsigned s n ∧ n ≤ bound := by
  simp only [boundedNatural?, Option.filter_eq_some_iff, natural?_eq_some_iff,
    decide_eq_true_eq]
  refine and_congr_left fun _ => ⟨fun read => ?_, fun denotes => ?_⟩
  · split at read
    · obtain ⟨run, rfl⟩ := read
      exact .plus run
    · obtain ⟨run, rfl⟩ := read
      exact .bare run
  · cases denotes with
    | plus run => exact ⟨run, rfl⟩
    | bare run =>
      split
      · exact absurd (run.all '+' List.mem_cons_self) (by decide)
      · exact ⟨run, rfl⟩

end Number

namespace Sqlite

theorem JournalMode.ofName?_eq_some_iff {name : String} {mode : JournalMode} :
    ofName? name = some mode ↔ Text.SameLetters mode.keyword name := by
  rw [← Text.lower_eq_lower_iff]
  constructor
  · intro found
    unfold ofName? at found
    have same := List.find?_some found
    exact of_decide_eq_true same
  · intro same
    unfold ofName?
    rw [← same]
    cases mode <;> decide

/-! ### Settings -/

/-- An option with the value that it is set to. -/
inductive Setting where
  | foreignKeys (on : Bool)
  | caseSensitiveLike (on : Bool)
  | busyTimeout (ms : Nat)
  | queryTimeout (ms : Nat)
  | journalMode (mode : JournalMode)
  /-- The database lies in memory, whatever place is named. -/
  | memory
  deriving DecidableEq, Repr

/-- The texts that stand for a truth value. -/
def flagTexts : Bool → List String
  | true => ["true", "1"]
  | false => ["false", "0"]

namespace Setting

/-- The name of the option. -/
def key : Setting → String
  | foreignKeys _ => "foreign_keys"
  | caseSensitiveLike _ => "case_sensitive_like"
  | busyTimeout _ => "busy_timeout"
  | queryTimeout _ => "query_timeout"
  | journalMode _ => "journal_mode"
  | memory => "mode"

/-- Whether a text is a legal value of the option that stands for the value it is set to. -/
def IsValue (value : String) : Setting → Prop
  | foreignKeys on | caseSensitiveLike on => value ∈ flagTexts on
  | busyTimeout ms => IsUnsigned value.toList ms ∧ ms ≤ Options.maxTimeout
  | queryTimeout ms => IsUnsigned value.toList ms ∧ ms ≤ maxUnsigned
  | journalMode mode => Text.SameLetters mode.keyword value
  | memory => value = "memory"

/-- Whether a segment of option text writes a setting. -/
def Written (s : Setting) (segment : String) : Prop :=
  ∃ value, s.IsValue value ∧ segment = s.key ++ "=" ++ value

end Setting

/-- Whether a segment of option text is an option with a legal value. -/
def IsLegal (segment : String) : Prop := ∃ s : Setting, s.Written segment

namespace Options
variable {o o' : Options} {key value segment : String} {s : Setting}

/-- The options with one setting made. -/
def apply (o : Options) : Setting → Options
  | .foreignKeys on => { o with foreignKeys := on }
  | .caseSensitiveLike on => { o with caseSensitiveLike := on }
  | .busyTimeout ms => { o with busyTimeout := some ms }
  | .queryTimeout ms => { o with queryTimeout := some ms }
  | .journalMode mode => { o with journalMode := mode }
  | .memory => { o with location := .memory }

theorem flag_eq_ok_iff {b : Bool} : flag key value = .ok b ↔ value ∈ flagTexts b := by
  unfold flag
  split
  case isTrue yes =>
    rcases yes with rfl | rfl <;> cases b <;> decide
  case isFalse other =>
    rw [not_or] at other
    split
    case isTrue no =>
      rcases no with rfl | rfl <;> cases b <;> decide
    case isFalse neither =>
      rw [not_or] at neither
      cases b <;> simp [flagTexts, other, neither]

theorem number_eq_ok_iff {bound n : Nat} :
    number key value bound = .ok n ↔ IsUnsigned value.toList n ∧ n ≤ bound := by
  rw [← boundedNatural?_eq_some_iff, number]
  split <;> simp_all

/-- An option can be set if it is known and has a legal value, and then the setting is made. -/
theorem set_eq_ok_iff :
    o.set key value = .ok o' ↔ ∃ s : Setting, s.key = key ∧ s.IsValue value ∧ o' = o.apply s := by
  constructor
  · intro done
    unfold set at done
    split at done
    · obtain ⟨b, read, rfl⟩ := map_eq_ok_iff.1 done
      exact ⟨.foreignKeys b, rfl, flag_eq_ok_iff.1 read, rfl⟩
    · obtain ⟨b, read, rfl⟩ := map_eq_ok_iff.1 done
      exact ⟨.caseSensitiveLike b, rfl, flag_eq_ok_iff.1 read, rfl⟩
    · obtain ⟨n, read, rfl⟩ := map_eq_ok_iff.1 done
      exact ⟨.busyTimeout n, rfl, number_eq_ok_iff.1 read, rfl⟩
    · obtain ⟨n, read, rfl⟩ := map_eq_ok_iff.1 done
      exact ⟨.queryTimeout n, rfl, number_eq_ok_iff.1 read, rfl⟩
    · split at done
      · next mode named =>
        cases done
        exact ⟨.journalMode mode, rfl, JournalMode.ofName?_eq_some_iff.1 named, rfl⟩
      · cases done
    · split at done
      · next is_memory =>
        cases done
        exact ⟨.memory, is_memory.1.symm, is_memory.2, rfl⟩
      · cases done
  · rintro ⟨s, rfl, legal, rfl⟩
    cases s with
    | foreignKeys on => exact map_eq_ok_iff.2 ⟨on, flag_eq_ok_iff.2 legal, rfl⟩
    | caseSensitiveLike on => exact map_eq_ok_iff.2 ⟨on, flag_eq_ok_iff.2 legal, rfl⟩
    | busyTimeout ms => exact map_eq_ok_iff.2 ⟨ms, number_eq_ok_iff.2 legal, rfl⟩
    | queryTimeout ms => exact map_eq_ok_iff.2 ⟨ms, number_eq_ok_iff.2 legal, rfl⟩
    | journalMode mode =>
      simp only [set, Setting.key, JournalMode.ofName?_eq_some_iff.2 legal]
      rfl
    | memory =>
      obtain rfl : value = "memory" := legal
      rfl

/-! ### Segments -/

/-- A segment is cut at its first equals sign. -/
theorem setSegment_append (plain : '=' ∉ key.toList) :
    o.setSegment (key ++ "=" ++ value).toList = o.set key value := by
  have parts : (key ++ "=" ++ value).toList = key.toList ++ '=' :: value.toList := by simp
  rw [setSegment, parts, Text.cutAt_append plain]
  simp only [String.ofList_toList]

theorem setSegment_plain (plain : '=' ∉ segment.toList) : o.setSegment segment.toList = .ok o := by
  rw [setSegment, Text.cutAt_of_notMem plain]

end Options

namespace Setting
variable {s : Setting} {key value segment : String}

theorem key_plain (s : Setting) : '=' ∉ s.key.toList := by
  cases s <;> simp [key]

/-- What a segment writes is told by what stands on both sides of its first equals sign. -/
theorem written_append_iff (plain : '=' ∉ key.toList) :
    s.Written (key ++ "=" ++ value) ↔ s.key = key ∧ s.IsValue value := by
  constructor
  · rintro ⟨found, legal, same⟩
    have sides := congrArg (fun t => Text.cutAt '=' t.toList) same
    simp only [String.toList_append, List.append_assoc] at sides
    change Text.cutAt '=' (key.toList ++ '=' :: value.toList) =
      Text.cutAt '=' (s.key.toList ++ '=' :: found.toList) at sides
    rw [Text.cutAt_append plain, Text.cutAt_append s.key_plain] at sides
    simp only [Prod.mk.injEq, Option.some.injEq, String.toList_inj] at sides
    obtain ⟨rfl, rfl⟩ := sides
    exact ⟨rfl, legal⟩
  · rintro ⟨rfl, legal⟩
    exact ⟨value, legal, rfl⟩

end Setting

/-- A segment with an equals sign is cut at the first one. -/
theorem exists_parts {segment : String} (marked : '=' ∈ segment.toList) :
    ∃ key value : String, '=' ∉ key.toList ∧ segment = key ++ "=" ++ value := by
  obtain ⟨key, value, parts, plain⟩ := List.eq_append_cons_of_mem marked
  refine ⟨String.ofList key, String.ofList value, by simpa using plain, ?_⟩
  rw [← String.toList_inj, parts]
  simp

namespace Options
variable {o : Options} {segment : String}

theorem setSegment_written {s : Setting} (written : s.Written segment) :
    o.setSegment segment.toList = .ok (o.apply s) := by
  obtain ⟨value, legal, rfl⟩ := written
  rw [setSegment_append s.key_plain]
  exact set_eq_ok_iff.2 ⟨s, rfl, legal, rfl⟩

/-- A segment is read if it is an option with a legal value or has no equals sign. -/
theorem exists_setSegment_iff (segment : String) (o : Options) :
    (∃ o', o.setSegment segment.toList = .ok o') ↔ ('=' ∈ segment.toList → IsLegal segment) := by
  by_cases marked : '=' ∈ segment.toList
  · obtain ⟨key, value, plain, rfl⟩ := exists_parts marked
    rw [setSegment_append plain]
    constructor
    · rintro ⟨o', done⟩ -
      obtain ⟨s, rfl, legal, -⟩ := set_eq_ok_iff.1 done
      exact ⟨s, value, legal, rfl⟩
    · intro legal
      obtain ⟨s, written⟩ := legal marked
      obtain ⟨named, legal⟩ := (Setting.written_append_iff plain).1 written
      exact ⟨_, set_eq_ok_iff.2 ⟨s, named, legal, rfl⟩⟩
  · exact iff_of_true ⟨o, setSegment_plain marked⟩ fun present => absurd present marked

end Options

/-! ### URLs -/

/-- The part of a URL before its option text. -/
def placeOf (url : String) : String := String.ofList (url.toList.takeWhile (· != '?'))

/-- The segments of a URL's option text. A URL without option text has one empty segment. -/
def segmentsOf (url : String) : List String :=
  ((url.toList.dropWhile (· != '?')).tail.splitOn '&').map String.ofList

/-- A URL is read segment by segment, from the options that its place gives. -/
theorem Options.ofUrl_eq (url : String) :
    ofUrl url = location? (placeOf url) >>= fun location =>
      (segmentsOf url).foldlM (fun o segment => o.setSegment segment.toList)
        { location := location } := by
  have parts := List.takeWhile_append_dropWhile (p := (· != '?')) (l := url.toList)
  unfold ofUrl placeOf segmentsOf Text.cutAt
  cases query : url.toList.dropWhile (· != '?') with
  | nil =>
    rw [query, List.append_nil] at parts
    rw [parts]
    rfl
  | cons mark query =>
    simp only [List.tail_cons, List.foldlM_map, String.toList_ofList]
    rfl

end Sqlite
end QueryPlan
