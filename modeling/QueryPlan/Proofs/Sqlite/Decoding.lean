import Mathlib.Data.List.Induction
import QueryPlan.Proofs.DecimalIntegers
import QueryPlan.Proofs.Sqlite.Refusal

/-!
# Connection URLs decode what they spell

Options are written as a place and, for each of them, a setting. The settings may stand in any order
and be preceded by other settings of the same options, and each value may have any of its legal
spellings. Reading goes from setting to setting, and each changes one option only
(`foldl_apply_of_last`), so what is left is what was written (`spelled_options_decoded`). A timeout
beyond its range is refused.
-/

namespace QueryPlan.Sqlite
set_option autoImplicit false
open Number

attribute [ext] Options

/-! ### What a URL spells -/

/-- The texts that a place is written as: the name of the database in memory, or a scheme and a path
that is not mistaken for anything else. -/
inductive Location.NamedBy : Location → String → Prop where
  | memory : NamedBy .memory "sqlite::memory:"
  | file {path : String} (nonempty : path ≠ "") (unmarked : '?' ∉ path.toList)
    (other : path ≠ ":memory:") : NamedBy (.file path) ("sqlite://" ++ path)

/-- The settings of options. A timeout that is not set has none. -/
def Options.settings (o : Options) : List Setting :=
  [.foreignKeys o.foreignKeys, .caseSensitiveLike o.caseSensitiveLike,
      .journalMode o.journalMode] ++
    (o.busyTimeout.map Setting.busyTimeout).toList ++
    (o.queryTimeout.map Setting.queryTimeout).toList

/-- Whether a list of settings comes down to options: each of their settings is the last one of its
key, and the list has no other keys. -/
structure Options.SettledBy (o : Options) (settings : List Setting) : Prop where
  last : ∀ s ∈ o.settings, (settings.filter fun t => t.key = s.key).getLast? = some s
  keys : ∀ t ∈ settings, t.key ∈ o.settings.map Setting.key

/-- A plain value for a setting. -/
def Setting.plainValue : Setting → String
  | foreignKeys on | caseSensitiveLike on => if on then "true" else "false"
  | busyTimeout ms | queryTimeout ms => Nat.repr ms
  | journalMode mode => mode.keyword
  | memory => "memory"

/-- The URL that options are written as in the plainest way, behind the text of their place. -/
def Options.plainUrl (o : Options) (place : String) : String :=
  place ++ "?" ++ "&".intercalate (o.settings.map fun s => s.key ++ "=" ++ s.plainValue)

/-! ### The last setting wins -/

namespace Options
variable {α : Type} {part : Options → α} {key : String} {settings : List Setting}

/-- A part of the options that no setting is about stays as it is. -/
theorem foldl_apply_of_absent (other : ∀ o s, Setting.key s ≠ key → part (o.apply s) = part o)
    (absent : ∀ s ∈ settings, s.key ≠ key) (o : Options) :
    part (settings.foldl apply o) = part o := by
  induction settings generalizing o with
  | nil => rfl
  | cons s settings ih =>
    obtain ⟨first, others⟩ := List.forall_mem_cons.1 absent
    rw [List.foldl_cons, ih others, other o s first]

/-- A part of the options that only settings of one key are about is what the last of them makes of
it. -/
theorem foldl_apply_of_last (other : ∀ o s, Setting.key s ≠ key → part (o.apply s) = part o)
    {s : Setting} (last : (settings.filter fun t => t.key = key).getLast? = some s) {a : α}
    (made : ∀ o, part (apply o s) = a) (o : Options) : part (settings.foldl apply o) = a := by
  induction settings using List.reverseRecOn with
  | nil => cases last
  | append_singleton settings t ih =>
    rw [List.foldl_append, List.foldl_cons, List.foldl_nil]
    rw [List.filter_append, List.filter_singleton] at last
    by_cases same : t.key = key
    · rw [decide_eq_true same, cond_true, List.getLast?_concat] at last
      cases last
      exact made _
    · rw [decide_eq_false same, cond_false, List.append_nil] at last
      rw [other _ t same, ih last]

/-- What a setting of a key leaves as it was: every option but the one of that key. -/
structure Frame (key : String) (o o' : Options) : Prop where
  location : key ≠ "mode" → o'.location = o.location
  foreignKeys : key ≠ "foreign_keys" → o'.foreignKeys = o.foreignKeys
  busyTimeout : key ≠ "busy_timeout" → o'.busyTimeout = o.busyTimeout
  journalMode : key ≠ "journal_mode" → o'.journalMode = o.journalMode
  caseSensitiveLike : key ≠ "case_sensitive_like" → o'.caseSensitiveLike = o.caseSensitiveLike
  queryTimeout : key ≠ "query_timeout" → o'.queryTimeout = o.queryTimeout

theorem frame_apply (o : Options) (s : Setting) : Frame s.key o (o.apply s) := by
  cases s <;> constructor <;> simp [apply, Setting.key]

variable {o base : Options}

/-- The place is no setting of its own. -/
theorem mode_notMem (o : Options) : "mode" ∉ o.settings.map Setting.key := by
  cases waits : o.busyTimeout <;> cases limited : o.queryTimeout <;>
    simp [settings, Setting.key, waits, limited]

theorem query_timeout_notMem (unlimited : o.queryTimeout = none) :
    "query_timeout" ∉ o.settings.map Setting.key := by
  cases waits : o.busyTimeout <;> simp [settings, Setting.key, waits, unlimited]

/-- Settings that come down to options lead to them from any options that have their place and no
limit on queries. -/
theorem foldl_apply_of_settledBy (settled : o.SettledBy settings)
    (waits : o.busyTimeout.isSome = true) (place : base.location = o.location)
    (unlimited : base.queryTimeout = none) : settings.foldl apply base = o := by
  have absent {key : String} (unused : key ∉ o.settings.map Setting.key) :
      ∀ t ∈ settings, t.key ≠ key := by
    rintro t member rfl
    exact unused (settled.keys t member)
  have reached {α : Type} {part : Options → α} {s : Setting} {a : α} (member : s ∈ o.settings)
      (other : ∀ o t, Setting.key t ≠ s.key → part (o.apply t) = part o)
      (made : ∀ o, part (apply o s) = a) : part (settings.foldl apply base) = a :=
    foldl_apply_of_last other (settled.last s member) made base
  have location : (settings.foldl apply base).location = o.location := by
    rw [← place]
    exact foldl_apply_of_absent (fun o s => (frame_apply o s).location) (absent o.mode_notMem) base
  have foreignKeys : (settings.foldl apply base).foreignKeys = o.foreignKeys :=
    reached (s := .foreignKeys o.foreignKeys) (by simp [Options.settings])
      (fun o t => (frame_apply o t).foreignKeys) fun _ => rfl
  have caseSensitiveLike : (settings.foldl apply base).caseSensitiveLike = o.caseSensitiveLike :=
    reached (s := .caseSensitiveLike o.caseSensitiveLike) (by simp [Options.settings])
      (fun o t => (frame_apply o t).caseSensitiveLike) fun _ => rfl
  have journalMode : (settings.foldl apply base).journalMode = o.journalMode :=
    reached (s := .journalMode o.journalMode) (by simp [Options.settings])
      (fun o t => (frame_apply o t).journalMode) fun _ => rfl
  have busyTimeout : (settings.foldl apply base).busyTimeout = o.busyTimeout := by
    obtain ⟨ms, set⟩ := Option.isSome_iff_exists.1 waits
    rw [set]
    exact reached (s := .busyTimeout ms) (by simp [Options.settings, set])
      (fun o t => (frame_apply o t).busyTimeout) fun _ => rfl
  have queryTimeout : (settings.foldl apply base).queryTimeout = o.queryTimeout := by
    cases limit : o.queryTimeout with
    | none =>
      rw [← unlimited]
      exact foldl_apply_of_absent (fun o t => (frame_apply o t).queryTimeout)
        (absent (query_timeout_notMem limit)) base
    | some ms =>
      exact reached (s := .queryTimeout ms) (by simp [Options.settings, limit])
        (fun o t => (frame_apply o t).queryTimeout) fun _ => rfl
  exact Options.ext location foreignKeys busyTimeout journalMode caseSensitiveLike queryTimeout

end Options

/-! ### Reading a URL -/

/-- A legal value has no ampersand. -/
theorem Setting.IsValue.plain {s : Setting} {value : String} (legal : s.IsValue value) :
    '&' ∉ value.toList := by
  have number {n : Nat} (denotes : IsUnsigned value.toList n) : '&' ∉ value.toList := by
    intro member
    rcases denotes.isNumeral.mem member with digit | plus | minus
    · cases digit
    · exact absurd plus (by decide)
    · exact absurd minus (by decide)
  cases s with
  | foreignKeys on | caseSensitiveLike on =>
    have words : ∀ word ∈ flagTexts on, '&' ∉ word.toList := by
      cases on <;> simp [flagTexts]
    exact words value legal
  | busyTimeout ms | queryTimeout ms => exact number legal.1
  | journalMode mode =>
    intro member
    obtain ⟨c, letter, same⟩ := exists_of_forall₂_mem legal member
    have letters : ∀ c ∈ mode.keyword.toList, Char.toLower c ≠ Char.toLower '&' := by
      cases mode <;> simp [JournalMode.keyword]
    exact letters c letter same
  | memory =>
    obtain rfl : value = "memory" := legal
    simp

/-- A segment that writes a setting has no ampersand, so it stays in one piece. -/
theorem Setting.Written.plain {s : Setting} {segment : String} (written : s.Written segment) :
    '&' ∉ segment.toList := by
  obtain ⟨value, legal, rfl⟩ := written
  have name : '&' ∉ s.key.toList := by
    cases s <;> simp [key]
  simpa [name] using legal.plain

theorem placeOf_append {place : String} (unmarked : '?' ∉ place.toList) (query : String) :
    placeOf (place ++ "?" ++ query) = place := by
  have other := Text.bne_of_notMem unmarked
  rw [placeOf, ← String.toList_inj, String.toList_ofList]
  simp [List.takeWhile_append_of_pos other]

theorem segmentsOf_append {place : String} (unmarked : '?' ∉ place.toList) {segments : List String}
    (nonempty : segments ≠ []) (plain : ∀ segment ∈ segments, '&' ∉ segment.toList) :
    segmentsOf (place ++ "?" ++ "&".intercalate segments) = segments := by
  have other := Text.bne_of_notMem unmarked
  have query : ((place ++ "?" ++ "&".intercalate segments).toList.dropWhile (· != '?')).tail =
      ['&'].intercalate (segments.map String.toList) := by
    simp [List.dropWhile_append_of_pos other, String.toList_intercalate]
  rw [segmentsOf, query, List.splitOn_intercalate '&' (List.forall_mem_map.2 plain) (by simpa)]
  simp

namespace Location.NamedBy
variable {location : Location} {place : String}

theorem unmarked (named : location.NamedBy place) : '?' ∉ place.toList := by
  cases named with
  | memory => simp
  | file nonempty unmarked other => simpa using unmarked

/-- Only the scheme is taken off a path. -/
theorem location?_eq (named : location.NamedBy place) : Options.location? place = .ok location := by
  cases named with
  | memory => rfl
  | @file path nonempty unmarked other =>
    have in_file : "sqlite://" ++ path ∉ Options.memoryNames := by
      intro named
      simp only [Options.memoryNames, List.mem_cons, List.not_mem_nil, or_false] at named
      rcases named with same | same | same
      all_goals
        have chars := congrArg String.toList same
        simp only [String.toList_append] at chars
      · simp at chars
      · simp at chars
      · exact other (String.toList_inj.1 (by simpa using chars))
    have stripped : (Options.schemes.findSome? fun scheme =>
        Text.stripStart? scheme ("sqlite://" ++ path)) = some path := by
      rw [Options.schemes, List.findSome?_cons, Text.stripStart?_eq_some_iff.2 rfl]
    unfold Options.location?
    rw [if_neg (by simpa using in_file), stripped]
    exact if_neg nonempty

end Location.NamedBy

namespace Options
variable {o : Options} {place : String} {settings : List Setting} {segments : List String}

theorem foldlM_written (written : List.Forall₂ Setting.Written settings segments) (o : Options) :
    segments.foldlM (fun o segment => o.setSegment segment.toList) o =
      .ok (settings.foldl apply o) := by
  induction written generalizing o with
  | nil => rfl
  | cons first rest ih =>
    rw [List.foldlM_cons, setSegment_written first]
    exact ih _

/-- What a URL spells is read back. -/
theorem ofUrl_of_settledBy (named : o.location.NamedBy place) (waits : o.busyTimeout.isSome = true)
    (settled : o.SettledBy settings) (written : List.Forall₂ Setting.Written settings segments) :
    ofUrl (place ++ "?" ++ "&".intercalate segments) = .ok o := by
  have nonempty : segments ≠ [] := by
    rintro rfl
    cases written
    cases settled.last (.foreignKeys o.foreignKeys) (by simp [Options.settings])
  have plain : ∀ segment ∈ segments, '&' ∉ segment.toList := by
    intro segment member
    obtain ⟨s, -, writes⟩ := exists_of_forall₂_mem written member
    exact writes.plain
  rw [ofUrl_eq, placeOf_append named.unmarked, named.location?_eq,
    segmentsOf_append named.unmarked nonempty plain]
  refine (foldlM_written written _).trans (congrArg Except.ok ?_)
  exact foldl_apply_of_settledBy settled waits rfl rfl

/-- Each option once is one way to write them. -/
theorem settledBy_settings (o : Options) : o.SettledBy o.settings where
  last := by
    cases waits : o.busyTimeout <;> cases limited : o.queryTimeout <;>
      simp [settings, Setting.key, waits, limited]
  keys _ member := List.mem_map_of_mem member

theorem plain_written (waits : ∀ ms ∈ o.busyTimeout, ms < 2 ^ 32)
    (limits : ∀ ms ∈ o.queryTimeout, ms < 2 ^ 64) :
    List.Forall₂ Setting.Written o.settings
      (o.settings.map fun s => s.key ++ "=" ++ s.plainValue) := by
  have number (n : Nat) : IsUnsigned (Nat.repr n).toList n := by
    have denotes := IsUnsigned.bare (IsDigits.toDigits n)
    rw [ofDigits_toDigits] at denotes
    simpa [Nat.repr] using denotes
  have flag (on : Bool) : (if on then "true" else "false") ∈ flagTexts on := by
    cases on <;> simp [flagTexts]
  rw [List.forall₂_map_right_iff, List.forall₂_same]
  intro s member
  refine ⟨s.plainValue, ?_, rfl⟩
  simp only [settings, List.mem_append, List.mem_cons, List.not_mem_nil, or_false,
    Option.mem_toList, Option.map_eq_some_iff] at member
  rcases member with ((rfl | rfl | rfl) | ⟨ms, set, rfl⟩) | ⟨ms, set, rfl⟩
  · exact flag _
  · exact flag _
  · exact Text.lower_eq_lower_iff.1 rfl
  · exact ⟨number ms, Nat.le_of_lt_succ (waits ms set)⟩
  · exact ⟨number ms, Nat.le_of_lt_succ (limits ms set)⟩

end Options

/-! ### Timeouts beyond their range -/

/-- The timeouts, each with the number of its legal values. -/
def timeoutRanges : List (String × Nat) := [("busy_timeout", 2 ^ 32), ("query_timeout", 2 ^ 64)]

/-- A legal value of a timeout is a natural number in its range. -/
theorem exists_number_of_isLegal {key value : String} {range : Nat}
    (timeout : (key, range) ∈ timeoutRanges) (legal : IsLegal (key ++ "=" ++ value)) :
    ∃ ms, IsUnsigned value.toList ms ∧ ms < range := by
  simp only [timeoutRanges, List.mem_cons, List.not_mem_nil, or_false, Prod.mk.injEq] at timeout
  obtain ⟨s, written⟩ := legal
  rcases timeout with ⟨rfl, rfl⟩ | ⟨rfl, rfl⟩
  · obtain ⟨named, legal⟩ := (Setting.written_append_iff (by simp)).1 written
    cases s with
    | busyTimeout ms => exact ⟨ms, legal.1, Nat.lt_succ_of_le legal.2⟩
    | foreignKeys | caseSensitiveLike | queryTimeout | journalMode | memory =>
      simp [Setting.key] at named
  · obtain ⟨named, legal⟩ := (Setting.written_append_iff (by simp)).1 written
    cases s with
    | queryTimeout ms => exact ⟨ms, legal.1, Nat.lt_succ_of_le legal.2⟩
    | foreignKeys | caseSensitiveLike | busyTimeout | journalMode | memory =>
      simp [Setting.key] at named

/-- **Connection URLs decode what they spell.** Options with a wait for a lock are read back from
the plainest URL that is written for them, and from any other one: the settings in any order, after
other legal settings of the same options, flags and numbers in any spelling and journal modes in any
case. A timeout that is negative or beyond its range is refused wherever it stands. -/
theorem spelled_options_decoded :
    (∀ (o : Options) (place : String), o.location.NamedBy place →
      (∃ ms, o.busyTimeout = some ms ∧ ms < 2 ^ 32) → (∀ ms ∈ o.queryTimeout, ms < 2 ^ 64) →
      Options.ofUrl (o.plainUrl place) = .ok o) ∧
    (∀ (o : Options) (place : String) (settings : List Setting) (segments : List String),
      o.location.NamedBy place → o.busyTimeout.isSome = true → o.SettledBy settings →
      List.Forall₂ Setting.Written settings segments →
      Options.ofUrl (place ++ "?" ++ "&".intercalate segments) = .ok o) ∧
    ∀ (key : String) (range : Nat), (key, range) ∈ timeoutRanges →
      ∀ (url numeral : String) (n : Int), IsNumeral numeral.toList n → n < 0 ∨ range ≤ n →
        key ++ "=" ++ numeral ∈ segmentsOf url → ∃ failure, Options.ofUrl url = .error failure := by
  refine ⟨?_, fun o place settings segments => Options.ofUrl_of_settledBy, ?_⟩
  · rintro o place named ⟨ms, set, small⟩ limits
    have waits : ∀ ms ∈ o.busyTimeout, ms < 2 ^ 32 := by
      rw [set]
      rintro _ ⟨⟩
      exact small
    exact Options.ofUrl_of_settledBy named (by rw [set]; rfl) o.settledBy_settings
      (Options.plain_written waits limits)
  · intro key range timeout url numeral n denotes outside member
    refine Options.refused_of_not_isLegal member (by simp) fun legal => ?_
    obtain ⟨ms, read, small⟩ := exists_number_of_isLegal timeout legal
    have same : (ms : Int) = n := read.isNumeral.unique denotes
    omega

namespace Sample

/-- Options whose path has the marks of option text in it. -/
def oddOptions : Options :=
  { location := .file "sqlite:a&b=c.db", foreignKeys := false, journalMode := .truncate,
    busyTimeout := some 0, queryTimeout := some 18446744073709551615 }

/-- Settings of theirs, with some that are overridden. -/
def oddSettings : List Setting :=
  [.journalMode .wal, .queryTimeout 5, .journalMode .truncate, .busyTimeout 7, .busyTimeout 0,
    .caseSensitiveLike true, .queryTimeout 18446744073709551615, .foreignKeys false]

/-- A spelling of each. -/
def oddSegments : List String :=
  ["journal_mode=wal", "query_timeout=+005", "journal_mode=tRuNcAtE", "busy_timeout=7",
    "busy_timeout=0", "case_sensitive_like=1", "query_timeout=18446744073709551615",
    "foreign_keys=false"]

theorem oddOptions_settled : oddOptions.SettledBy oddSettings where
  last := by decide +kernel
  keys := by decide +kernel

theorem oddSegments_written : List.Forall₂ Setting.Written oddSettings oddSegments := by
  have number {s : String} {n bound : Nat} (read : boundedNatural? bound s.toList = some n) :
      IsUnsigned s.toList n ∧ n ≤ bound := boundedNatural?_eq_some_iff.1 read
  have word {s t : String} (same : Text.lower s = Text.lower t) : Text.SameLetters s t :=
    Text.lower_eq_lower_iff.1 same
  exact .cons ⟨"wal", word (by decide +kernel), rfl⟩ <|
    .cons ⟨"+005", number (by decide +kernel), rfl⟩ <|
    .cons ⟨"tRuNcAtE", word (by decide +kernel), rfl⟩ <|
    .cons ⟨"7", number (by decide +kernel), rfl⟩ <|
    .cons ⟨"0", number (by decide +kernel), rfl⟩ <|
    .cons ⟨"1", by simp [Setting.IsValue, flagTexts], rfl⟩ <|
    .cons ⟨"18446744073709551615", number (by decide +kernel), rfl⟩ <|
    .cons ⟨"false", by simp [Setting.IsValue, flagTexts], rfl⟩ .nil

end Sample

open Sample in
/-- A path with the marks of option text in it is read back from the plainest URL and from one with
overridden settings and odd spellings, and a wait of two to the power of 32 is refused. -/
theorem odd_options_decoded :
    Options.ofUrl (oddOptions.plainUrl "sqlite://sqlite:a&b=c.db") = .ok oddOptions ∧
    oddOptions.SettledBy oddSettings ∧
    Options.ofUrl ("sqlite://sqlite:a&b=c.db" ++ "?" ++ "&".intercalate oddSegments) =
      .ok oddOptions ∧
    ∃ failure, Options.ofUrl "sqlite://a.db?mode=memory&busy_timeout=4294967296" =
      .error failure := by
  obtain ⟨plain, spelled, beyond⟩ := spelled_options_decoded
  have place : "sqlite://" ++ "sqlite:a&b=c.db" = "sqlite://sqlite:a&b=c.db" := by decide +kernel
  have named : oddOptions.location.NamedBy "sqlite://sqlite:a&b=c.db" := by
    rw [← place]
    exact .file (by decide) (by simp) (by decide)
  have limits : ∀ ms ∈ oddOptions.queryTimeout, ms < 2 ^ 64 := by
    intro ms set
    cases set
    norm_num
  have numeral : IsNumeral "4294967296".toList 4294967296 :=
    integer?_eq_some_iff.1 (by decide +kernel)
  have refused := beyond "busy_timeout" (2 ^ 32) (by simp [timeoutRanges])
    "sqlite://a.db?mode=memory&busy_timeout=4294967296" _ _ numeral (.inr (by norm_num))
    (by decide +kernel)
  have decoded := spelled _ _ _ _ named rfl oddOptions_settled oddSegments_written
  exact ⟨plain _ _ named ⟨0, rfl, by decide⟩ limits, oddOptions_settled, decoded, refused⟩

end QueryPlan.Sqlite
