import QueryPlan.Proofs.Sqlite.Settings

/-!
# Option text that is refused

A URL is read just if its place names a database and each segment of its option text that has an
equals sign is an option with a legal value; where the segment stands makes no difference. A segment
without an equals sign is passed over, whatever it names, so that what is read has legal options
only just if all its segments have one or are empty (`options_accepted_iff`).
-/

namespace QueryPlan.Sqlite
set_option autoImplicit false
open Number

/-- The places that name no database: nothing, or a scheme alone. -/
def namelessPlaces : List String := "" :: Options.schemes

/-- The names of all options. -/
def optionNames : List String :=
  ["mode", "foreign_keys", "case_sensitive_like", "busy_timeout", "query_timeout", "journal_mode"]

namespace Setting
variable {s : Setting}

theorem key_mem_optionNames (s : Setting) : s.key ∈ optionNames := by
  cases s <;> simp [key, optionNames]

/-- No option may be set to nothing. -/
theorem not_isValue_empty (s : Setting) : ¬ s.IsValue "" := by
  have not_number {n : Nat} : ¬ IsUnsigned "".toList n :=
    fun denotes => denotes.isNumeral.nonempty rfl
  cases s with
  | foreignKeys on | caseSensitiveLike on => cases on <;> simp [IsValue, flagTexts]
  | busyTimeout ms | queryTimeout ms => exact fun legal => not_number legal.1
  | journalMode mode =>
    intro legal
    have same := Text.lower_eq_lower_iff.2 legal
    cases mode <;> exact absurd same (by decide)
  | memory => simp [IsValue]

end Setting

/-- An option with a legal value has an equals sign. -/
theorem IsLegal.marked {segment : String} (legal : IsLegal segment) : '=' ∈ segment.toList := by
  obtain ⟨s, value, -, rfl⟩ := legal
  simp

/-- A segment whose name is unknown, or that has an equals sign and nothing behind it, is no option
with a legal value. -/
theorem not_isLegal {key value : String} (plain : '=' ∉ key.toList)
    (fault : key ∉ optionNames ∨ value = "") : ¬ IsLegal (key ++ "=" ++ value) := by
  rintro ⟨s, written⟩
  obtain ⟨rfl, legal⟩ := (Setting.written_append_iff plain).1 written
  rcases fault with unknown | rfl
  · exact unknown s.key_mem_optionNames
  · exact s.not_isValue_empty legal

namespace Options

/-- Without a path behind its scheme a place names no database. -/
theorem mem_namelessPlaces {place : String} {failure : Failure}
    (failed : location? place = .error failure) : place ∈ namelessPlaces := by
  unfold location? at failed
  split at failed
  · cases failed
  · cases found : schemes.findSome? fun scheme => Text.stripStart? scheme place with
    | none =>
      rw [found, Option.getD_none] at failed
      dsimp only at failed
      split at failed
      · next empty => exact List.mem_cons.2 (.inl empty)
      · cases failed
    | some path =>
      rw [found, Option.getD_some] at failed
      dsimp only at failed
      obtain ⟨scheme, known, stripped⟩ := List.exists_of_findSome?_eq_some found
      split at failed
      · next empty =>
        rw [Text.stripStart?_eq_some_iff.1 stripped, empty, String.append_empty]
        exact List.mem_cons_of_mem _ known
      · cases failed

theorem exists_location?_iff {place : String} :
    (∃ location, location? place = .ok location) ↔ place ∉ namelessPlaces := by
  constructor
  · rintro ⟨location, named⟩ nameless
    have refused : ∀ place ∈ namelessPlaces, (location? place).toOption = none := by decide +kernel
    have none := refused place nameless
    rw [named] at none
    cases none
  · intro names
    cases outcome : location? place with
    | ok location => exact ⟨location, rfl⟩
    | error failure => exact absurd (mem_namelessPlaces outcome) names

theorem exists_ofUrl_iff (url : String) :
    (∃ o, ofUrl url = .ok o) ↔ placeOf url ∉ namelessPlaces ∧
      ∀ segment ∈ segmentsOf url, '=' ∈ segment.toList → IsLegal segment := by
  have read (o : Options) := exists_foldlM_iff exists_setSegment_iff (segmentsOf url) o
  rw [ofUrl_eq, ← exists_location?_iff]
  simp only [bind_eq_ok_iff]
  constructor
  · rintro ⟨o, location, named, rest⟩
    exact ⟨⟨location, named⟩, (read _).1 ⟨o, rest⟩⟩
  · rintro ⟨⟨location, named⟩, legal⟩
    obtain ⟨o, rest⟩ := (read _).2 legal
    exact ⟨o, location, named, rest⟩

theorem exists_error_iff {url : String} :
    (∃ failure, ofUrl url = .error failure) ↔ ¬ ∃ o, ofUrl url = .ok o := by
  cases ofUrl url <;> simp

/-- A segment that has an equals sign and is no legal option is refused wherever it stands. -/
theorem refused_of_not_isLegal {url segment : String} (member : segment ∈ segmentsOf url)
    (marked : '=' ∈ segment.toList) (illegal : ¬ IsLegal segment) :
    ∃ failure, ofUrl url = .error failure := by
  rw [exists_error_iff, exists_ofUrl_iff]
  exact fun accepted => illegal (accepted.2 segment member marked)

end Options

/-- **Unknown and malformed options are refused, unless they have no equals sign.** A URL is read
just if its place names a database and each segment with an equals sign is an option with a legal
value. So what is read has no other segments, but for empty ones, just if all of them have an equals
sign; a URL with a segment that lacks one is read all the same. A name that is unknown or has
nothing behind its equals sign is refused wherever it stands. -/
theorem options_accepted_iff (url : String) :
    ((∃ o, Options.ofUrl url = .ok o) ↔ placeOf url ∉ namelessPlaces ∧
      ∀ segment ∈ segmentsOf url, '=' ∈ segment.toList → IsLegal segment) ∧
    (((∃ o, Options.ofUrl url = .ok o) →
        ∀ segment ∈ segmentsOf url, segment ≠ "" → IsLegal segment) ↔
      (∃ failure, Options.ofUrl url = .error failure) ∨
        ∀ segment ∈ segmentsOf url, segment ≠ "" → '=' ∈ segment.toList) ∧
    ∀ key value : String, '=' ∉ key.toList → key ++ "=" ++ value ∈ segmentsOf url →
      key ∉ optionNames ∨ value = "" → ∃ failure, Options.ofUrl url = .error failure := by
  have accepted := Options.exists_ofUrl_iff url
  refine ⟨accepted, ⟨fun legal => ?_, ?_⟩, fun key value plain member fault => ?_⟩
  · rw [Options.exists_error_iff, or_iff_not_imp_left, not_not]
    intro read segment member visible
    exact (legal read segment member visible).marked
  · rintro (failed | marked) read segment member visible
    · exact absurd read (Options.exists_error_iff.1 failed)
    · exact (accepted.1 read).2 segment member (marked segment member visible)
  · exact Options.refused_of_not_isLegal member (by simp) (not_isLegal plain fault)

/-- An empty segment and options in their legal spellings are read, and an option without a value
is refused behind them. -/
theorem sparse_options_read :
    (∃ o, Options.ofUrl "sqlite:a.db?&mode=memory&busy_timeout=+010&journal_mode=Wal" = .ok o) ∧
    IsLegal "journal_mode=Wal" ∧
    ∃ failure, Options.ofUrl "sqlite:a.db?mode=memory&busy_timeout=" = .error failure := by
  obtain ⟨-, legal, -⟩ :=
    options_accepted_iff "sqlite:a.db?&mode=memory&busy_timeout=+010&journal_mode=Wal"
  obtain ⟨-, -, refused⟩ := options_accepted_iff "sqlite:a.db?mode=memory&busy_timeout="
  have read : ∃ o,
      Options.ofUrl "sqlite:a.db?&mode=memory&busy_timeout=+010&journal_mode=Wal" = .ok o :=
    ⟨{ location := .memory, busyTimeout := some 10 }, by decide +kernel⟩
  exact ⟨read, legal.2 (.inr (by decide +kernel)) read _ (by decide +kernel) (by decide),
    refused "busy_timeout" "" (by decide +kernel) (by decide +kernel) (.inr rfl)⟩

/-- Names without a value are passed over, known or not, where the same names with an equals sign
are refused. -/
theorem valueless_option_ignored :
    (Options.ofUrl "sqlite://a.db?cache" = .ok { location := .file "a.db" } ∧
      segmentsOf "sqlite://a.db?cache" = ["cache"] ∧ ¬ IsLegal "cache") ∧
    (Options.ofUrl "sqlite://a.db?foreign_keys" = .ok { location := .file "a.db" } ∧
      segmentsOf "sqlite://a.db?foreign_keys" = ["foreign_keys"] ∧ ¬ IsLegal "foreign_keys") ∧
    Options.ofUrl "sqlite://a.db?cache=shared" =
      .error (.configuration "unknown option `cache`") ∧
    Options.ofUrl "sqlite://a.db?foreign_keys=" =
      .error (.configuration "`foreign_keys` must be true or false") := by
  have unmarked {segment : String} (plain : '=' ∉ segment.toList) : ¬ IsLegal segment :=
    fun legal => plain legal.marked
  exact ⟨⟨by decide +kernel, by decide +kernel, unmarked (by simp)⟩,
    ⟨by decide +kernel, by decide +kernel, unmarked (by simp)⟩,
    by decide +kernel, by decide +kernel⟩

end QueryPlan.Sqlite
