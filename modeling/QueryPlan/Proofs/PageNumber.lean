import QueryPlan.Proofs.Envelopes
import QueryPlan.Proofs.Integers
import QueryPlan.Proofs.Strictness
import QueryPlan.Proofs.Window

/-!
# The page that was asked for

A page number reaches the window check as a word, whatever integer the envelope holds. The page of a
plan is therefore the page that was asked for, and a page out of range is refused, as long as the
bound that too large integers are read as is out of range itself. Settings may set the ceiling to
just that bound, and then the page beyond it is taken for the last one (`page_honoured_iff`,
`page_beyond_words`).
-/

namespace QueryPlan
set_option autoImplicit false
open Number

/-! ### The page of an envelope -/

namespace Request
variable {permission : Permission} {r r' : Request}

theorem page_addField {v : Json} (added : addField permission r ("page", v) = .ok r') :
    integerField "page" v = .ok r'.page := by
  obtain ⟨page, read, added⟩ := bind_eq_ok_iff.1 added
  cases added
  exact read

/-- The other fields of an envelope leave the page as it is. -/
theorem page_addField_other {key : String} {v : Json} (other : key ≠ "page")
    (added : addField permission r (key, v) = .ok r') : r'.page = r.page := by
  cases addField_eq_ok_iff.1 added with
  | page read => exact absurd rfl other
  | filters v | groups items | sort read | perPage read => rfl

theorem page_foldlM_other {fields : Fields} (absent : "page" ∉ fields.map Prod.fst)
    (added : fields.foldlM (addField permission) r = .ok r') : r'.page = r.page := by
  refine foldlM_invariant (P := fun q => q.page = r.page) ?_ rfl added
  intro field member q next kept step
  have other : field.1 ≠ "page" := fun same => absent (List.mem_map.2 ⟨field, member, same⟩)
  rw [page_addField_other other step, kept]

/-- An envelope that is read is a map, and its fields were added one after the other. -/
theorem foldlM_of_ofEnvelope {input : Input} (read : ofEnvelope input = .ok r) :
    ∃ fields, input.value = .map fields ∧ fields.foldlM (addField input.permission) {} = .ok r := by
  unfold ofEnvelope at read
  split at read
  case isTrue =>
    split at read
    case h_1 fields is_map => exact ⟨fields, is_map, read⟩
    case h_2 => cases read
  case isFalse => cases read

/-- The page of an envelope's request is what is read under its key. -/
theorem page_ofEnvelope {input : Input} {v : Json} (read : ofEnvelope input = .ok r)
    (distinct : (input.value.fields.map Prod.fst).Nodup)
    (asked : input.value.get? "page" = some v) : integerField "page" v = .ok r.page := by
  obtain ⟨fields, is_map, added⟩ := foldlM_of_ofEnvelope read
  rw [is_map] at distinct asked
  -- Only the fields behind the page could change it again, and they have other keys.
  obtain ⟨before, after, parts, -⟩ := List.lookup_eq_some_iff.1 asked
  obtain rfl : fields = before ++ ("page", v) :: after := parts
  have keys : (before.map Prod.fst ++ "page" :: after.map Prod.fst).Nodup := by
    simpa [Json.fields] using distinct
  have absent : "page" ∉ after.map Prod.fst :=
    (List.nodup_cons.1 (List.nodup_append.1 keys).2.1).1
  rw [List.foldlM_append] at added
  obtain ⟨early, -, added⟩ := bind_eq_ok_iff.1 added
  rw [List.foldlM_cons] at added
  obtain ⟨named, here, rest⟩ := bind_eq_ok_iff.1 added
  rw [page_foldlM_other absent rest]
  exact page_addField here

/-- An integer under the key of the page is read as the nearest word. -/
theorem page_of_isInteger {input : Input} {v : Json} {n : Int} (read : ofEnvelope input = .ok r)
    (distinct : (input.value.fields.map Prod.fst).Nodup)
    (asked : input.value.get? "page" = some v) (denotes : v.IsInteger n) :
    r.page = some (saturate n) := by
  have field := page_ofEnvelope read distinct asked
  rw [integerField_of_isInteger "page" denotes] at field
  exact (Except.ok.inj field).symm

end Request

/-! ### The plan of the first page -/

namespace EntityType
variable {e : EntityType} {s : Settings} {r : Request}

/-- A request whose first page has a plan fails for its window or has that plan in its window. -/
theorem compile_of_firstPage {q : Plan} (first : e.compile s (r.withPage 1) = .ok q) :
    e.compile s r = ((s.pagination.window r.page r.perPage).map fun w =>
      { q with window := w }).mapError (QueryError.tagged · e.name) := by
  obtain ⟨a, stages⟩ := compile_eq_ok_iff.1 first
  have admitted : r.admit = .ok a := stages.admitted
  have known := checkKnown_eq_ok_iff.1 stages.known
  rw [compile, Catalog.compile_of_known admitted stages.sized known, Recognized.plan,
    stages.conditions, stages.groups, ← stages.order, ← stages.dropped]
  cases s.pagination.window r.page r.perPage <;> rfl

/-- If a page has a plan, so has the first page. -/
theorem firstPage_of_compile (some_page : 1 ≤ s.pagination.maxPage) {p : Plan}
    (made : e.compile s r = .ok p) : ∃ q, e.compile s (r.withPage 1) = .ok q := by
  obtain ⟨a, stages⟩ := compile_eq_ok_iff.1 made
  refine ⟨{ p with window := s.pagination.windowOf r.perPage 1 }, compile_eq_ok_iff.2 ⟨a, ?_⟩⟩
  exact { stages with window := PageLimits.window_first some_page r.perPage }

/-- The page of a plan is the one that the request names. -/
theorem page_of_compile {p : Plan} (made : e.compile s r = .ok p) :
    s.pagination.InRange (r.page.getD 1) ∧ (p.window.page : Int) = r.page.getD 1 := by
  obtain ⟨a, stages⟩ := compile_eq_ok_iff.1 made
  obtain ⟨inside, -, window⟩ := PageLimits.window_eq_ok_iff.1 stages.window
  refine ⟨inside, ?_⟩
  have positive := inside.1
  rw [window]
  show ((r.page.getD 1).toNat : Int) = r.page.getD 1
  omega

/-- If nothing before the window fails, a page is refused as out of range just if it is. -/
theorem outOfRange_iff {q : Plan} (first : e.compile s (r.withPage 1) = .ok q) :
    (∃ err, e.compile s r = .error err ∧ err.code = .pageOutOfRange) ↔
      ¬ s.pagination.InRange (r.page.getD 1) := by
  rw [compile_of_firstPage first]
  rcases s.pagination.window_cases r.page r.perPage with ⟨outside, same⟩ | ⟨inside, -, same⟩ |
    ⟨inside, -, same⟩
  · rw [same]
    exact ⟨fun _ => outside, fun _ => ⟨_, rfl, QueryError.code_tagged _ _⟩⟩
  · rw [same]
    refine ⟨?_, fun outside => absurd inside outside⟩
    rintro ⟨err, failed, code⟩
    cases failed
    rw [QueryError.code_tagged] at code
    cases code
  · rw [same]
    refine ⟨?_, fun outside => absurd inside outside⟩
    rintro ⟨err, failed, -⟩
    cases failed

end EntityType

/-! ### The page that was asked for -/

namespace PageLimits
variable {limits : PageLimits} {n : Int}

theorem not_inRange_iff : ¬ limits.InRange n ↔ n < 1 ∨ (limits.maxPage : Int) < n := by
  unfold InRange
  omega

/-- A number in range is read as it is. -/
theorem saturate_of_inRange (ceiling : (limits.maxPage : Int) ≤ maxSigned)
    (inside : limits.InRange n) : saturate n = n := by
  obtain ⟨positive, small⟩ := inside
  apply saturate_of_fits
  apply fitsSigned_iff.2
  have least : minSigned < 1 := by decide
  omega

/-- A number is read as one in range just if it is in range, unless it is above all words and the
largest word is a page. -/
theorem inRange_saturate_iff (ceiling : (limits.maxPage : Int) ≤ maxSigned) :
    (limits.InRange (saturate n) ↔ limits.InRange n) ↔
      n ≤ maxSigned ∨ (limits.maxPage : Int) < maxSigned := by
  have least : minSigned < 1 := by decide
  have greatest : 1 ≤ maxSigned := by decide
  unfold InRange saturate
  omega

end PageLimits

namespace EntityType
variable {e : EntityType} {s : Settings} {r : Request} {n : Int}

/-- Whether a request for a page gets that page or is told that there is none. -/
structure Honours (e : EntityType) (s : Settings) (r : Request) (n : Int) : Prop where
  /-- What is compiled is the page. -/
  planned : ∀ p, e.compile s r = .ok p → (p.window.page : Int) = n
  /-- A page out of range is refused as such, unless an earlier stage fails. Those stages do not
  look at the page, so they pass if the first page has a plan. -/
  refused : (∃ q, e.compile s (r.withPage 1) = .ok q) → n < 1 ∨ (s.pagination.maxPage : Int) < n →
    ∃ err, e.compile s r = .error err ∧ err.code = .pageOutOfRange

theorem honours_of_unplanned (usable : s.Usable)
    (unplanned : ¬ ∃ q, e.compile s (r.withPage 1) = .ok q) : e.Honours s r n := by
  constructor
  case planned =>
    intro p made
    exact absurd (firstPage_of_compile usable.maxPage made) unplanned
  case refused =>
    intro planned
    exact absurd planned unplanned

/-- A request that nothing else is wrong with is honoured if reading its page does not move it into
the range of pages. -/
theorem honours_iff_of_firstPage (usable : s.Usable) {q : Plan}
    (first : e.compile s (r.withPage 1) = .ok q) (page : r.page.getD 1 = saturate n) :
    e.Honours s r n ↔ (s.pagination.InRange (saturate n) ↔ s.pagination.InRange n) := by
  have refusal := outOfRange_iff first
  rw [page] at refusal
  constructor
  · intro honoured
    constructor
    · intro read
      by_contra outside
      have refused := honoured.refused ⟨q, first⟩ (PageLimits.not_inRange_iff.1 outside)
      exact refusal.1 refused read
    · intro inside
      rwa [PageLimits.saturate_of_inRange usable.maxPage_le inside]
  · intro same
    constructor
    case planned =>
      intro p made
      obtain ⟨inside, named⟩ := page_of_compile made
      rw [page] at inside named
      rw [named, PageLimits.saturate_of_inRange usable.maxPage_le (same.1 inside)]
    case refused =>
      intro planned outside
      apply refusal.2
      rw [same]
      exact PageLimits.not_inRange_iff.2 outside

end EntityType

/-- **The page that is compiled is the page that was asked for.** Under settings that are accepted,
an envelope that asks for a page by an integer of any size gets that page or is told that it is out
of range, unless the integer is above all words, the ceiling is the largest word and nothing else is
wrong with the request. -/
theorem page_honoured_iff {e : EntityType} {s : Settings} {input : Input} {v : Json} {n : Int}
    {r : Request} (accepted : s.validate = .ok s)
    (distinct : (input.value.fields.map Prod.fst).Nodup)
    (asked : input.value.get? "page" = some v) (denotes : v.IsInteger n)
    (read : Request.ofEnvelope input = .ok r) :
    e.Honours s r n ↔ n ≤ maxSigned ∨ (s.pagination.maxPage : Int) < maxSigned ∨
      ¬ ∃ q, e.compile s (r.withPage 1) = .ok q := by
  have usable := (Settings.validate_eq_ok_iff.1 accepted).1
  have page : r.page.getD 1 = saturate n := by
    rw [Request.page_of_isInteger read distinct asked denotes]
    rfl
  by_cases planned : ∃ q, e.compile s (r.withPage 1) = .ok q
  · obtain ⟨q, first⟩ := planned
    rw [EntityType.honours_iff_of_firstPage usable first page,
      PageLimits.inRange_saturate_iff usable.maxPage_le, ← or_assoc]
    exact (or_iff_left fun unplanned => unplanned ⟨q, first⟩).symm
  · exact iff_of_true (EntityType.honours_of_unplanned usable planned) (.inr (.inr planned))

namespace Sample

/-- An envelope that asks for one row on the page after the largest word. -/
def afterWords : Input :=
  .inherent (.map [("page", .text "9223372036854775808"), ("per_page", .int 1)])

/-- What is read from it. -/
def lastWord : Request := { page := some maxSigned, perPage := some 1 }

theorem read_afterWords : Request.ofEnvelope afterWords = .ok lastWord := rfl

theorem isInteger_afterWords : (Json.text "9223372036854775808").IsInteger (maxSigned + 1) := by
  have run : Number.IsDigits "9223372036854775808".toList := ⟨nofun, List.all_eq_true.1 rfl⟩
  exact @Json.IsInteger.text _ _ [] _ [] rfl nofun nofun (.unsigned run)

end Sample

open Sample in
/-- Under the usual limits the page after the largest word is refused. -/
theorem distant_page_refused :
    Request.ofEnvelope afterWords = .ok lastWord ∧
      articles.Honours {} lastWord (maxSigned + 1) ∧
      ∃ err, articles.compile {} lastWord = .error err ∧ err.code = .pageOutOfRange := by
  have accepted : ({} : Settings).validate = .ok {} := by decide
  have distinct : (afterWords.value.fields.map Prod.fst).Nodup := by decide
  have honoured : articles.Honours {} lastWord (maxSigned + 1) := by
    apply (page_honoured_iff accepted distinct rfl isInteger_afterWords read_afterWords).2
    exact .inr (.inl (by decide))
  exact ⟨read_afterWords, honoured, honoured.refused ⟨_, rfl⟩ (.inr (by decide))⟩

open Sample in
/-- **A page beyond all words.** Settings are accepted under which a request for the page after the
largest word is compiled to the page before it. -/
theorem page_beyond_words :
    endless.validate = .ok endless ∧
      afterWords.value.get? "page" = some (.text "9223372036854775808") ∧
      (Json.text "9223372036854775808").IsInteger (maxSigned + 1) ∧
      Request.ofEnvelope afterWords = .ok lastWord ∧
      (∃ p, articles.compile endless lastWord = .ok p ∧ (p.window.page : Int) = maxSigned) ∧
      ¬ articles.Honours endless lastWord (maxSigned + 1) := by
  refine ⟨by decide, rfl, isInteger_afterWords, read_afterWords, ⟨_, rfl, rfl⟩, ?_⟩
  intro honoured
  have page := honoured.planned _ rfl
  exact absurd page (by decide)

end QueryPlan
