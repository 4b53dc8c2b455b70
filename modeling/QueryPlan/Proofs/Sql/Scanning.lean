import Mathlib.Data.List.Induction
import QueryPlan.Proofs.Integers
import QueryPlan.Proofs.Sql.Token

/-!
# Scanning in parts

`Scans d m s ts m'` says that reading `s` on from mode `m` adds the tokens `ts` and ends in `m'`.
Parts compose (`Scans.append`). A text that starts with a separator ends whatever token is before
it, and one that ends with a separator leaves the scanner between tokens (`Scans.text`); a quoted
name is one token, whatever characters it has (`Scans.quote`), and so are a numeral
(`Scans.numeral`) and a placeholder (`Scans.placeholder`).
-/

namespace QueryPlan.Sql
set_option autoImplicit false

variable {d : Dialect} {m m' m'' : Mode} {s t : List Char} {ts us : List Token}

theorem scan_append (d : Dialect) (m : Mode) (s t : List Char) :
    scan d m (s ++ t) = (scan d m s).bind fun x =>
      (scan d x.2 t).map fun y => (x.1 ++ y.1, y.2) := by
  induction s generalizing m with
  | nil => cases h : scan d m t <;> simp [scan, h]
  | cons c s ih =>
    simp only [List.cons_append, scan, Option.bind_eq_bind, ih]
    cases step d m c with
    | none => rfl
    | some x =>
      simp only [Option.bind_some]
      cases scan d x.2 s with
      | none => rfl
      | some y =>
        simp only [Option.bind_some]
        cases scan d y.2 t <;> simp

theorem scan_singleton (d : Dialect) (m : Mode) (c : Char) : scan d m [c] = step d m c := by
  cases h : step d m c <;> simp [scan, h]

/-- Reading `s` on from mode `m` adds the tokens `ts`, the last one of which may still be open in
mode `m'`. -/
def Scans (d : Dialect) (m : Mode) (s : List Char) (ts : List Token) (m' : Mode) : Prop :=
  ∃ before out last, m.token? = some before ∧ scan d m s = some (out, m') ∧
    m'.token? = some last ∧ out ++ last = before ++ ts

theorem Scans.nil {before : List Token} (h : m.token? = some before) : Scans d m [] [] m :=
  ⟨before, [], before, h, rfl, h, by simp⟩

theorem Scans.append (hs : Scans d m s ts m') (ht : Scans d m' t us m'') :
    Scans d m (s ++ t) (ts ++ us) m'' := by
  obtain ⟨before, out, last, open_before, scanned, open_last, same⟩ := hs
  obtain ⟨before', out', last', open_before', scanned', open_last', same'⟩ := ht
  obtain rfl : last = before' := Option.some.inj (open_last.symm.trans open_before')
  refine ⟨before, out ++ out', last', open_before, ?_, open_last', ?_⟩
  · rw [scan_append, scanned, Option.bind_some, scanned', Option.map_some]
  · rw [List.append_assoc, same', ← List.append_assoc, same, List.append_assoc]

theorem Scans.closable (h : Scans d m s ts m') : ∃ last, m'.token? = some last := by
  obtain ⟨_, _, last, _, _, h, _⟩ := h
  exact ⟨last, h⟩

theorem Scans.tokens? {text : String} (h : Scans d .between text.toList ts m') :
    Sql.tokens? d text = some ts := by
  obtain ⟨before, out, last, start, scanned, closed, same⟩ := h
  cases start
  simp [Sql.tokens?, tokensFrom?, scanned, closed, same]

/-- What a text with tokens does, read from between tokens. -/
theorem Scans.of_tokens? {text : String} (h : Sql.tokens? d text = some ts) :
    ∃ m', Scans d .between text.toList ts m' := by
  unfold Sql.tokens? tokensFrom? at h
  cases scanned : scan d .between text.toList with
  | none => simp [scanned] at h
  | some x =>
    obtain ⟨out, m'⟩ := x
    simp only [scanned, Option.bind_eq_bind, Option.bind_some, Option.bind_eq_some_iff,
      Option.some.injEq] at h
    obtain ⟨last, closed, same⟩ := h
    exact ⟨m', [], out, last, rfl, scanned, closed, same⟩

/-! ### Separators -/

/-- A character that ends the token before it and is no part of the token after it. -/
def isSeparator (c : Char) : Bool := c = ' ' || c = '(' || c = ')' || c = ','

theorem isSeparator_iff {c : Char} :
    isSeparator c = true ↔ c = ' ' ∨ c = '(' ∨ c = ')' ∨ c = ',' := by
  simp [isSeparator, or_assoc]

/-- A separator leaves the scanner between tokens. -/
theorem start_separator {c : Char} (h : isSeparator c = true) (d : Dialect) :
    ∃ ts, start d c = some (ts, .between) := by
  obtain rfl | rfl | rfl | rfl := isSeparator_iff.1 h
  · exact ⟨_, rfl⟩
  · exact ⟨_, rfl⟩
  · exact ⟨_, rfl⟩
  · exact ⟨_, rfl⟩

/-- A separator goes on with no token that could end before it. -/
theorem step_separator {c : Char} {before : List Token} (h : isSeparator c = true)
    (closable : m.token? = some before) : step d m c = restart d m c := by
  have plain : isWordChar c = false ∧ isOperatorChar c = false ∧ c.isDigit = false ∧
      c ≠ identMark d ∧ c ≠ literalMark := by
    obtain rfl | rfl | rfl | rfl := isSeparator_iff.1 h <;> cases d <;> decide
  obtain ⟨word, operator, digit, quote, mark⟩ := plain
  cases m <;> simp_all [step, Mode.token?]

/-- After a separator the scanner is between tokens, or inside quotes. -/
theorem between_of_step_separator {c : Char} {out last : List Token} (h : isSeparator c = true)
    (stepped : step d m c = some (out, m')) (closable : m'.token? = some last) :
    m' = .between := by
  have plain : c ≠ identMark d ∧ c ≠ literalMark ∧ c ≠ '\x5c' := by
    obtain rfl | rfl | rfl | rfl := isSeparator_iff.1 h <;> cases d <;> decide
  obtain ⟨quote, mark, escape⟩ := plain
  cases open_before : m.token? with
  | none =>
    -- Inside quotes a separator is one more character, and the scanner stays inside.
    cases m with
    | ident s =>
      simp only [step, if_neg quote, Option.some.injEq, Prod.mk.injEq] at stepped
      rw [← stepped.2] at closable
      cases closable
    | literal s =>
      simp only [step, if_neg mark, escape, decide_false, Bool.and_false, Bool.false_eq_true,
        if_false, Option.some.injEq, Prod.mk.injEq] at stepped
      rw [← stepped.2] at closable
      cases closable
    | literalEscape s =>
      simp only [step, Option.some.injEq, Prod.mk.injEq] at stepped
      rw [← stepped.2] at closable
      cases closable
    | number digits =>
      have notDigit : c.isDigit = false := by
        obtain rfl | rfl | rfl | rfl := isSeparator_iff.1 h <;> decide
      simp [step, notDigit, restart, open_before] at stepped
    | _ => simp [Mode.token?] at open_before
  | some before =>
    obtain ⟨ts, started⟩ := start_separator h d
    rw [step_separator h open_before, restart, open_before] at stepped
    simp only [started, Option.bind_eq_bind, Option.bind_some, Option.some.injEq,
      Prod.mk.injEq] at stepped
    exact stepped.2.symm

/-- Whether a text starts with a separator. -/
def startsApart (text : String) : Bool := text.toList.head?.any isSeparator

/-- Whether a text ends with a separator. -/
def endsApart (text : String) : Bool := text.toList.getLast?.any isSeparator

/-- Reading on from an open token does the same as reading from between tokens, once a separator
has completed it. -/
theorem scan_of_separator {c : Char} {before out : List Token} (h : isSeparator c = true)
    (closable : m.token? = some before)
    (scanned : scan d .between (c :: s) = some (out, m')) :
    scan d m (c :: s) = some (before ++ out, m') := by
  obtain ⟨ts, started⟩ := start_separator h d
  have here : step d m c = some (before ++ ts, .between) := by
    rw [step_separator h closable, restart, closable, started]
    rfl
  have there : step d .between c = some (ts, .between) := by
    have closed : Mode.between.token? = some [] := rfl
    rw [step_separator h closed, restart, closed, started]
    rfl
  rw [scan, there] at scanned
  rw [scan, here]
  cases rest : scan d .between s with
  | none => simp [rest] at scanned
  | some x =>
    simp only [rest, Option.bind_eq_bind, Option.bind_some, Option.some.injEq, Prod.mk.injEq]
      at scanned ⊢
    exact ⟨by rw [← scanned.1, List.append_assoc], scanned.2⟩

/-- A text that ends with a separator leaves the scanner between tokens. -/
theorem between_of_endsApart {text : String} (h : Scans d m text.toList ts m')
    (apart : endsApart text = true) : m' = .between := by
  obtain ⟨before, out, last, -, scanned, closed, -⟩ := h
  unfold endsApart at apart
  cases e : text.toList using List.reverseRecOn with
  | nil => simp [e] at apart
  | append_singleton s c =>
    rw [e, List.getLast?_concat, Option.any_some] at apart
    rw [e, scan_append] at scanned
    obtain ⟨x, -, tail⟩ := Option.bind_eq_some_iff.1 scanned
    obtain ⟨y, stepped, same⟩ := Option.map_eq_some_iff.1 tail
    cases same
    rw [scan_singleton] at stepped
    exact between_of_step_separator apart stepped closed

/-- A text keeps its tokens after another one if it starts with a separator or if the other one ends
with one. -/
theorem Scans.text {text : String} {before : List Token} (h : Sql.tokens? d text = some ts)
    (closable : m.token? = some before) (first : m = .between ∨ startsApart text = true) :
    ∃ m', Scans d m text.toList ts m' ∧ (endsApart text = true → m' = .between) := by
  obtain ⟨m', scans⟩ := Scans.of_tokens? h
  refine ⟨m', ?_, between_of_endsApart scans⟩
  obtain rfl | apart := first
  · exact scans
  · obtain ⟨_, out, last, start, scanned, closed, same⟩ := scans
    cases start
    unfold startsApart at apart
    cases e : text.toList with
    | nil => simp [e] at apart
    | cons c s =>
      rw [e, List.head?_cons, Option.any_some] at apart
      rw [e] at scanned
      refine ⟨before, before ++ out, last, closable, ?_, closed, ?_⟩
      · exact scan_of_separator apart closable scanned
      · rw [List.append_assoc, same, List.nil_append]

/-! ### Names and placeholders -/

/-- A dialect quotes identifiers with the mark that it reads them by. -/
theorem quoteMark_eq (d : Dialect) : d.quoteMark = identMark d := by cases d <;> rfl

theorem scan_doubled (d : Dialect) (acc name : List Char) :
    scan d (.ident acc) (doubled (identMark d) name) = some ([], .ident (acc ++ name)) := by
  induction name generalizing acc with
  | nil => simp [doubled, scan]
  | cons c name ih =>
    by_cases h : c = identMark d
    · simp [doubled, h, scan, step, ih]
    · simp [doubled, h, scan, step, ih]

/-- A quoted name is one token: no character in it ends the quotes. -/
theorem Scans.quote (d : Dialect) (name : String) :
    ∃ m', Scans d .between (d.quote name).toList [.ident name] m' := by
  have opened : step d .between (identMark d) = some ([], .ident []) := by cases d <;> rfl
  have closed : step d (.ident name.toList) (identMark d) = some ([], .identMark name.toList) := by
    simp [step]
  refine ⟨.identMark name.toList, [], [], [.ident name], rfl, ?_, by simp [Mode.token?], rfl⟩
  rw [Dialect.quote, quoteMark_eq, quoted, String.toList_ofList, List.cons_append, scan, opened]
  simp [scan_append, scan_doubled, scan, closed]

/-- The digits of a number read back as the number. -/
theorem natural?_toDigits (n : Nat) : Number.natural? (Nat.toDigits 10 n) = some n := by
  apply Number.natural?_eq_some_iff.2
  exact ⟨.toDigits n, Number.ofDigits_toDigits n⟩

theorem scan_digits (d : Dialect) (acc digits : List Char) (h : ∀ c ∈ digits, c.isDigit = true) :
    scan d (.number acc) digits = some ([], .number (acc ++ digits)) := by
  induction digits generalizing acc with
  | nil => simp [scan]
  | cons c digits ih =>
    have head := h c (by simp)
    have tail := ih (acc ++ [c]) fun x hx => h x (List.mem_cons_of_mem c hx)
    simp [scan, step, head, tail]

theorem scan_word (d : Dialect) (acc s : List Char) (h : ∀ c ∈ s, isWordChar c = true) :
    scan d (.word acc) s = some ([], .word (acc ++ s)) := by
  induction s generalizing acc with
  | nil => simp [scan]
  | cons c s ih =>
    have head := h c (by simp)
    have tail := ih (acc ++ [c]) fun x hx => h x (List.mem_cons_of_mem c hx)
    simp [scan, step, head, tail]

/-- A numeral is one word. -/
theorem Scans.numeral (d : Dialect) (n : Nat) :
    ∃ m', Scans d .between (Nat.repr n).toList [.word (Nat.repr n)] m' := by
  have digits := (Number.IsDigits.toDigits n).all
  have wordChars : ∀ c ∈ Nat.toDigits 10 n, isWordChar c = true :=
    fun c hc => by simp [isWordChar, Char.isAlphanum, digits c hc]
  rw [Nat.toList_repr, Nat.repr_eq_ofList_toDigits]
  cases e : Nat.toDigits 10 n with
  | nil => exact absurd e Nat.toDigits_ne_nil
  | cons c s =>
    rw [e] at digits wordChars
    have blank : c.isWhitespace = false := by
      by_contra h
      simp only [Char.isWhitespace, Bool.not_eq_false, Bool.or_eq_true, decide_eq_true_eq] at h
      have digit := digits c (by simp)
      obtain (((rfl | rfl) | rfl) | rfl) := h <;> exact absurd digit (by decide)
    have opened : step d .between c = some ([], .word [c]) := by
      simp [step, restart, Mode.token?, start, blank, wordChars c (by simp)]
    have rest := scan_word d [c] s fun x hx => wordChars x (List.mem_cons_of_mem c hx)
    exact ⟨.word (c :: s), [], [], [.word (String.ofList (c :: s))], rfl,
      by simp [scan, opened, rest], rfl, rfl⟩

/-- The number that a dialect writes after the sign of a placeholder. -/
def Dialect.number? (d : Dialect) (n : Nat) : Option Nat :=
  match d with
  | .postgres => some n
  | .mysql | .sqlite => none

theorem Scans.placeholder (d : Dialect) (n : Nat) :
    ∃ m', Scans d .between (d.placeholder n).toList [.placeholder (d.number? n)] m' := by
  cases d with
  | postgres =>
    have digits := (Number.IsDigits.toDigits n).all
    have opened : step .postgres .between '$' = some ([], .number []) := rfl
    refine ⟨.number (Nat.toDigits 10 n), [], [], [.placeholder (some n)], rfl, ?_, ?_, rfl⟩
    · simp [Dialect.placeholder, scan, opened, scan_digits _ _ _ digits]
    · simp [Mode.token?, natural?_toDigits]
  | mysql =>
    refine ⟨.between, [], [.placeholder none], [], rfl, ?_, rfl, rfl⟩
    show scan .mysql .between "?".toList = _
    decide
  | sqlite =>
    refine ⟨.between, [], [.placeholder none], [], rfl, ?_, rfl, rfl⟩
    show scan .sqlite .between "?".toList = _
    decide

end QueryPlan.Sql
