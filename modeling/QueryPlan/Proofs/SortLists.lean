import QueryPlan.Proofs.Envelopes
import QueryPlan.Proofs.Trimming

/-!
# Sort lists

Sort keys are given as a list of strings or as one text with commas between them. The text may have
blanks around its keys and blank parts among them (`Spells`), and is read as the list of its keys
(`sort_spellings_agree`): splitting takes it back to its parts, and trimming takes the blanks off
again (`Text.trimChars_blanks`).
-/

namespace QueryPlan
set_option autoImplicit false

/-! ### Spellings -/

/-- A text of white space only. -/
def Text.IsBlankText (s : String) : Prop := ∀ c ∈ s.toList, Text.isBlank c = true

instance (s : String) : Decidable (Text.IsBlankText s) :=
  decidable_of_iff (s.toList.all Text.isBlank = true) List.all_eq_true

/-- Parts between commas that spell a list of keys: each key with blanks around it, and blank parts
anywhere. -/
inductive Request.Spells : List String → List String → Prop where
  | nil : Spells [] []
  | blank {keys parts : List String} {part : String} (empty : Text.IsBlankText part)
    (rest : Spells keys parts) : Spells keys (part :: parts)
  | key {keys parts : List String} {key before after : String} (opens : Text.IsBlankText before)
    (closes : Text.IsBlankText after) (rest : Spells keys parts) :
    Spells (key :: keys) ((before ++ key ++ after) :: parts)

namespace Request
variable {keys parts : List String}

theorem not_mem_of_isBlankText {s : String} (blank : Text.IsBlankText s) : ',' ∉ s.toList := by
  intro member
  exact absurd (blank ',' member) (by decide)

/-- Blanks add no commas to a list of keys. -/
theorem Spells.commaless (spelling : Spells keys parts) (plain : ∀ k ∈ keys, ',' ∉ k.toList) :
    ∀ part ∈ parts, ',' ∉ part.toList := by
  induction spelling with
  | nil => nofun
  | blank empty rest ih =>
    exact List.forall_mem_cons.2 ⟨not_mem_of_isBlankText empty, ih plain⟩
  | key opens closes rest ih =>
    obtain ⟨first, others⟩ := List.forall_mem_cons.1 plain
    refine List.forall_mem_cons.2 ⟨?_, ih others⟩
    simp only [String.toList_append, List.mem_append, not_or]
    exact ⟨⟨not_mem_of_isBlankText opens, first⟩, not_mem_of_isBlankText closes⟩

/-- The keys that the parts of a text are read as. -/
def keysOfParts (parts : List (List Char)) : List String :=
  ((parts.map Text.trimChars).filter fun part => !part.isEmpty).map String.ofList

theorem keysOfParts_cons_blank {part : List Char} (blank : ∀ c ∈ part, Text.isBlank c = true)
    (parts : List (List Char)) : keysOfParts (part :: parts) = keysOfParts parts := by
  rw [keysOfParts, List.map_cons, Text.trimChars_eq_nil_iff.2 blank]
  rfl

theorem keysOfParts_cons_visible {part : List Char} (visible : Text.trimChars part ≠ [])
    (parts : List (List Char)) :
    keysOfParts (part :: parts) = String.ofList (Text.trimChars part) :: keysOfParts parts := by
  rw [keysOfParts, List.map_cons, List.filter_cons_of_pos (by simpa using visible)]
  rfl

/-- Parts that spell a list of keys are read as the keys without the blanks around them. -/
theorem Spells.keysOfParts_eq (spelling : Spells keys parts)
    (visible : ∀ k ∈ keys, ¬ Text.IsBlankText k) :
    keysOfParts (parts.map String.toList) = keys.map Text.trim := by
  induction spelling with
  | nil => rfl
  | blank empty rest ih => rw [List.map_cons, keysOfParts_cons_blank empty, ih visible]
  | @key _ _ key before after opens closes rest ih =>
    obtain ⟨first, others⟩ := List.forall_mem_cons.1 visible
    have trimmed : Text.trimChars (before ++ key ++ after).toList = Text.trimChars key.toList := by
      rw [String.toList_append, String.toList_append, Text.trimChars_blanks opens closes]
    have kept : Text.trimChars key.toList ≠ [] := fun none =>
      first (Text.trimChars_eq_nil_iff.1 none)
    rw [List.map_cons, keysOfParts_cons_visible (trimmed ▸ kept), trimmed, ih others]
    rfl

/-- A text is split into the parts that it was joined from. -/
theorem sortKeysOfText_intercalate (commaless : ∀ part ∈ parts, ',' ∉ part.toList) :
    sortKeysOfText (",".intercalate parts) = keysOfParts (parts.map String.toList) := by
  show keysOfParts ((",".intercalate parts).toList.splitOn ',') = _
  rw [String.toList_intercalate]
  cases parts with
  | nil => rfl
  | cons part parts =>
    apply congrArg keysOfParts
    exact List.splitOn_intercalate ',' (List.forall_mem_map.2 commaless) (by simp)

/-- A list of strings is read string by string. -/
theorem sortKeysOfItems_text (key : String) (keys : List String) :
    sortKeysOfItems key (keys.map .text) = .ok (keys.map Text.trim) := by
  unfold sortKeysOfItems
  rw [List.mapM_map]
  exact List.mapM_pure ..

/-- A part between commas has no comma. -/
theorem not_mem_of_mem_splitOn {c : Char} {s part : List Char} (member : part ∈ s.splitOn c) :
    c ∉ part := by
  induction s generalizing part with
  | nil =>
    rw [List.splitOn_nil, List.mem_singleton] at member
    rw [member]
    exact List.not_mem_nil
  | cons d s ih =>
    rw [List.splitOn_cons_eq_if_modifyHead] at member
    split at member
    next =>
      rcases List.mem_cons.1 member with rfl | later
      · exact List.not_mem_nil
      · exact ih later
    next other =>
      cases parts : s.splitOn c with
      | nil => exact absurd parts (List.splitOn_ne_nil c s)
      | cons first others =>
        rw [parts] at member ih
        rcases List.mem_cons.1 member with rfl | later
        · have differ : c ≠ d := by
            rintro rfl
            simp at other
          exact List.not_mem_cons_of_ne_of_not_mem differ (ih List.mem_cons_self)
        · exact ih (List.mem_cons_of_mem _ later)

/-- What is read from a text is trimmed, and no key is empty or has a comma. -/
theorem mem_sortKeysOfText {s k : String} (member : k ∈ sortKeysOfText s) :
    k ≠ "" ∧ ',' ∉ k.toList ∧ Text.trim k = k := by
  unfold sortKeysOfText at member
  obtain ⟨chars, kept, rfl⟩ := List.mem_map.1 member
  obtain ⟨trimmed, visible⟩ := List.mem_filter.1 kept
  obtain ⟨part, split, rfl⟩ := List.mem_map.1 trimmed
  refine ⟨?_, ?_, ?_⟩
  · simpa using visible
  · rw [String.toList_ofList]
    exact fun comma => not_mem_of_mem_splitOn split (Text.mem_of_mem_trimChars comma)
  · rw [Text.trim, String.toList_ofList, Text.trimChars_trimChars]

/-- Envelopes that differ in the value of one field have the same outcome if that field is read
alike. -/
theorem ofEnvelope_congr {permission : Permission} {v w : Json} {key : String}
    (same : ∀ r, addField permission r (key, v) = addField permission r (key, w))
    (before after : Fields) :
    ofEnvelope ⟨.map (before ++ (key, v) :: after), permission⟩ =
      ofEnvelope ⟨.map (before ++ (key, w) :: after), permission⟩ := by
  cases usable : permission.allowsUse with
  | false => rw [ofEnvelope_unusable usable, ofEnvelope_unusable usable]
  | true =>
    rw [ofEnvelope_append usable, ofEnvelope_append usable]
    simp only [List.foldlM_cons, same]

end Request

/-- **The two spellings of a sort list agree.** A list of strings that are not blank and have no
commas is read as these strings without the blanks around them, and so is a text in which they stand
between commas in their order, with blanks around them and blank parts among them. So an envelope
gives the same request with either, whatever its other fields are, and has the same outcome. What is
read from any text are keys that are not empty, have no commas and are trimmed. -/
theorem sort_spellings_agree {keys parts : List String} (spelling : Request.Spells keys parts)
    (plain : ∀ k ∈ keys, ',' ∉ k.toList) (visible : ∀ k ∈ keys, ¬ Text.IsBlankText k)
    (before after : Fields) (permission : Permission) (e : EntityType) (s : Settings) :
    Request.sortKeys "sort" (.list (keys.map .text)) = .ok (keys.map Text.trim) ∧
    Request.sortKeys "sort" (.text (",".intercalate parts)) = .ok (keys.map Text.trim) ∧
    Request.ofEnvelope ⟨.map (before ++ ("sort", .list (keys.map .text)) :: after), permission⟩ =
      Request.ofEnvelope
        ⟨.map (before ++ ("sort", .text (",".intercalate parts)) :: after), permission⟩ ∧
    e.compileEnvelope s ⟨.map (before ++ ("sort", .list (keys.map .text)) :: after), permission⟩ =
      e.compileEnvelope s
        ⟨.map (before ++ ("sort", .text (",".intercalate parts)) :: after), permission⟩ ∧
    ∀ text, ∀ k ∈ Request.sortKeysOfText text,
      k ≠ "" ∧ ',' ∉ k.toList ∧ Text.trim k = k := by
  have listed : Request.sortKeys "sort" (.list (keys.map .text)) = .ok (keys.map Text.trim) :=
    Request.sortKeysOfItems_text "sort" keys
  have joined : Request.sortKeys "sort" (.text (",".intercalate parts)) =
      .ok (keys.map Text.trim) := by
    rw [Request.sortKeys, Request.sortKeysOfText_intercalate (spelling.commaless plain),
      spelling.keysOfParts_eq visible]
  have alike : Request.ofEnvelope
        ⟨.map (before ++ ("sort", .list (keys.map .text)) :: after), permission⟩ =
      Request.ofEnvelope
        ⟨.map (before ++ ("sort", .text (",".intercalate parts)) :: after), permission⟩ := by
    apply Request.ofEnvelope_congr
    intro r
    simp only [Request.addField, listed, joined]
  refine ⟨listed, joined, alike, ?_, fun text k => Request.mem_sortKeysOfText⟩
  rw [EntityType.compileEnvelope, alike, EntityType.compileEnvelope]

namespace Sample

/-- The parts of a text with two keys, blanks around one of them, and empty and blank parts. -/
def spacedParts : List String :=
  ["", " " ++ "title:asc" ++ "\u2003", "\t", "" ++ "views:desc" ++ "", ""]

theorem spells_spacedParts : Request.Spells ["title:asc", "views:desc"] spacedParts := by
  have empty : Text.IsBlankText "" := nofun
  have views : Request.Spells ["views:desc"] ["\t", "" ++ "views:desc" ++ "", ""] :=
    .blank (by decide +kernel) (.key empty empty (.blank empty .nil))
  exact .blank empty (.key (by decide +kernel) (by decide +kernel) views)

end Sample

open Sample in
/-- Two keys in a text with blanks and empty parts are read as the list of them. -/
theorem spaced_sort_read :
    Request.sortKeys "sort" (.text ", title:asc\u2003,\t,views:desc,") =
      .ok ["title:asc", "views:desc"] ∧
    articles.compileEnvelope {} (.inherent (.map [("page", .int 1),
        ("sort", .list [.text "title:asc", .text "views:desc"])])) =
      articles.compileEnvelope {} (.inherent (.map [("page", .int 1),
        ("sort", .text ", title:asc\u2003,\t,views:desc,")])) := by
  have text : ",".intercalate spacedParts = ", title:asc\u2003,\t,views:desc," := by decide +kernel
  have keys : ["title:asc", "views:desc"].map Text.trim = ["title:asc", "views:desc"] := by
    decide +kernel
  obtain ⟨-, joined, -, outcome, -⟩ := sort_spellings_agree spells_spacedParts (by decide +kernel)
    (by decide +kernel) [("page", .int 1)] [] .inherent articles {}
  rw [text] at joined outcome
  rw [keys] at joined
  exact ⟨joined, outcome⟩

end QueryPlan
