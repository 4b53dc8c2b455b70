import Mathlib.Data.List.Chain
import QueryPlan.Proofs.Sql.Scanning

/-!
# The tokens of a statement

A statement is lexical if its texts have the same plain tokens in every dialect and if a separator
stands wherever a token could run into the next one. The text of a lexical statement has the tokens
of its pieces, one after the other (`Lexical.tokens?_text`): names, parameters and escape clauses
are tokens that no neighbour can change. `idents_tokensFrom`, `placeholders_tokensFrom` and
`escapes_tokensFrom` read names, placeholders and escape characters off them.
-/

namespace QueryPlan.Sql
set_option autoImplicit false

/-! ### Plain texts -/

/-- The tokens of a trusted text. The dialect does not matter for the texts this is used for. -/
def wordsOf (s : String) : List Token := (tokens? .sqlite s).getD []

/-- The word that introduces an escape character. -/
def escapeWord : Token := .word "ESCAPE"

/-- The literal of the escape character. -/
def escapeLiteral : Token := .literal "\x5c"

/-- Whether a token is neither a name nor a placeholder nor announces an escape character. -/
def Token.isPlain : Token → Bool
  | .word s => s != "ESCAPE"
  | .operator _ | .mark _ | .literal _ => true
  | .ident _ | .placeholder _ => false

/-- A text with the same plain tokens in every dialect. -/
structure PlainText (s : String) : Prop where
  tokens : ∀ d, tokens? d s = some (wordsOf s)
  plain : ∀ t ∈ wordsOf s, t.isPlain = true

/-- Whether a text is plain. -/
def isPlainText (s : String) : Bool :=
  (Dialect.all.all fun d => tokens? d s = some (wordsOf s)) && (wordsOf s).all Token.isPlain

theorem PlainText.of_check {s : String} (h : isPlainText s = true) : PlainText s := by
  simp only [isPlainText, Bool.and_eq_true, List.all_eq_true, decide_eq_true_eq] at h
  exact ⟨fun d => h.1 d (by cases d <;> decide), h.2⟩

namespace PlainText
variable {s : String}

theorem ident?_eq_none (h : PlainText s) : ∀ t ∈ wordsOf s, t.ident? = none := by
  intro t ht
  have plain := h.plain t ht
  cases t <;> simp_all [Token.isPlain, Token.ident?]

theorem placeholder?_eq_none (h : PlainText s) : ∀ t ∈ wordsOf s, t.placeholder? = none := by
  intro t ht
  have plain := h.plain t ht
  cases t <;> simp_all [Token.isPlain, Token.placeholder?]

theorem not_escape (h : PlainText s) : escapeWord ∉ wordsOf s := fun ht => by
  have plain := h.plain escapeWord ht
  simp [Token.isPlain, escapeWord] at plain

end PlainText

/-- What follows each word that introduces an escape character. -/
def escapes : List Token → List (Option Token)
  | [] => []
  | t :: ts => if t = escapeWord then ts.head? :: escapes ts else escapes ts

/-! ### Pieces -/

namespace Piece

/-- The name that a piece quotes. -/
def ident? : Piece → Option String
  | .ident name => some name
  | _ => none

/-- The number of values that a piece binds. -/
def binds : Piece → Nat
  | .param _ => 1
  | _ => 0

/-- The text of a piece after `count` parameters. -/
def textAfter (d : Dialect) (count : Nat) : Piece → String
  | .text s => s
  | .ident name => d.quote name
  | .param _ => d.placeholder (count + 1)
  | .escapeClause => d.escapeClause

/-- The tokens of a piece after `count` parameters. -/
def tokensAfter (d : Dialect) (count : Nat) : Piece → List Token
  | .text s => wordsOf s
  | .ident name => [.ident name]
  | .param _ => [.placeholder (d.number? (count + 1))]
  | .escapeClause => [escapeWord, escapeLiteral]

/-- Whether a piece starts with a separator. -/
def opensApart : Piece → Bool
  | .text s => startsApart s
  | .escapeClause => true
  | _ => false

/-- Whether a piece ends with a separator. -/
def closesApart : Piece → Bool
  | .text s => endsApart s
  | _ => false

/-- Whether the text of a piece is plain; pieces of other kinds have none. -/
def IsPlain : Piece → Prop
  | .text s => PlainText s
  | _ => True

/-- Whether a piece is plain. -/
def isPlain : Piece → Bool
  | .text s => isPlainText s
  | _ => true

/-- Whether a separator stands between two pieces. -/
def Apart (p q : Piece) : Prop := p.closesApart = true ∨ q.opensApart = true

theorem IsPlain.of_check {piece : Piece} (h : piece.isPlain = true) : piece.IsPlain := by
  cases piece with
  | text s => exact PlainText.of_check h
  | _ => trivial

/-- A piece adds its own tokens, if what is before it is complete or ended by it. -/
theorem scans {piece : Piece} {d : Dialect} {m : Mode} {before : List Token} (plain : piece.IsPlain)
    (closable : m.token? = some before) (first : m = .between ∨ piece.opensApart = true)
    (count : Nat) :
    ∃ m', Scans d m (piece.textAfter d count).toList (piece.tokensAfter d count) m' ∧
      (piece.closesApart = true → m' = .between) := by
  cases piece with
  | text s => exact Scans.text (plain.tokens d) closable first
  | ident name =>
    obtain rfl := first.resolve_right (by simp [opensApart])
    obtain ⟨m', scanned⟩ := Scans.quote d name
    exact ⟨m', scanned, nofun⟩
  | param value =>
    obtain rfl := first.resolve_right (by simp [opensApart])
    obtain ⟨m', scanned⟩ := Scans.placeholder d (count + 1)
    exact ⟨m', scanned, nofun⟩
  | escapeClause =>
    have tokens : tokens? d d.escapeClause = some [escapeWord, escapeLiteral] := by
      cases d <;> decide
    have apart : startsApart d.escapeClause = true := by cases d <;> decide
    obtain ⟨m', scanned, -⟩ := Scans.text tokens closable (.inr apart)
    exact ⟨m', scanned, nofun⟩

end Piece

/-! ### Statements -/

namespace Statement
variable {d : Dialect} {s t : Statement}

/-- The names that a statement quotes, in order. -/
def idents (s : Statement) : List String := s.filterMap Piece.ident?

@[simp] theorem idents_nil : idents [] = [] := rfl

@[simp] theorem idents_text (text : String) (s : Statement) :
    idents (.text text :: s) = idents s := rfl

@[simp] theorem idents_ident (name : String) (s : Statement) :
    idents (.ident name :: s) = name :: idents s := rfl

@[simp] theorem idents_param (value : Value) (s : Statement) :
    idents (.param value :: s) = idents s := rfl

@[simp] theorem idents_append (s t : Statement) : idents (s ++ t) = idents s ++ idents t :=
  List.filterMap_append

@[simp] theorem idents_joined (separator : String) (parts : List Statement) :
    idents (joined separator parts) = parts.flatMap idents := by
  unfold joined
  induction parts with
  | nil => rfl
  | cons s rest ih =>
    cases rest with
    | nil => simp [List.intercalate]
    | cons t rest =>
      rw [List.intercalate_cons_cons, idents_append, idents_append, ih]
      simp

/-- The tokens of a statement after `count` parameters. -/
def tokensFrom (d : Dialect) : Nat → Statement → List Token
  | _, [] => []
  | count, piece :: rest =>
    piece.tokensAfter d count ++ tokensFrom d (count + piece.binds) rest

theorem textFrom_cons (d : Dialect) (count : Nat) (piece : Piece) (rest : Statement) :
    textFrom d count (piece :: rest) =
      piece.textAfter d count ++ textFrom d (count + piece.binds) rest := by
  cases piece <;> rfl

theorem length_params_cons (piece : Piece) (rest : Statement) :
    (params (piece :: rest)).length = piece.binds + (params rest).length := by
  cases piece <;> simp [params, Piece.binds, Nat.add_comm]

theorem tokensFrom_append (d : Dialect) (count : Nat) (s t : Statement) :
    tokensFrom d count (s ++ t) =
      tokensFrom d count s ++ tokensFrom d (count + (params s).length) t := by
  induction s generalizing count with
  | nil => simp [tokensFrom]
  | cons piece s ih =>
    simp only [List.cons_append, tokensFrom, ih, length_params_cons, List.append_assoc,
      Nat.add_assoc]

/-- A statement whose texts are plain and whose tokens do not run into each other. -/
structure Lexical (s : Statement) : Prop where
  plain : ∀ piece ∈ s, piece.IsPlain
  apart : s.IsChain Piece.Apart

theorem Lexical.tail {piece : Piece} (h : Lexical (piece :: s)) : Lexical s :=
  ⟨fun p hp => h.plain p (List.mem_cons_of_mem piece hp), h.apart.tail⟩

/-- The induction on the pieces: the mode before a piece is between tokens, or the piece ends the
token that is open. -/
theorem Lexical.scans (h : Lexical s) {m : Mode} {before : List Token}
    (closable : m.token? = some before)
    (first : m = .between ∨ ∀ piece ∈ s.head?, piece.opensApart = true) (count : Nat) :
    ∃ m', Scans d m (textFrom d count s).toList (tokensFrom d count s) m' := by
  induction s generalizing m before count with
  | nil => exact ⟨m, Scans.nil closable⟩
  | cons piece s ih =>
    have opens : m = .between ∨ piece.opensApart = true := first.imp_right fun h => h piece rfl
    obtain ⟨m', scanned, closes⟩ :=
      Piece.scans (d := d) (h.plain piece (by simp)) closable opens count
    obtain ⟨last, open_last⟩ := scanned.closable
    have next : m' = .between ∨ ∀ q ∈ s.head?, q.opensApart = true := by
      cases s with
      | nil => exact .inr (by simp)
      | cons q rest =>
        obtain ⟨apart, -⟩ := List.isChain_cons_cons.1 h.apart
        exact apart.imp closes (by simp)
    obtain ⟨m'', rest⟩ := ih h.tail open_last next (count + piece.binds)
    refine ⟨m'', ?_⟩
    rw [textFrom_cons, String.toList_append]
    exact scanned.append rest

/-- The text of a lexical statement has the tokens of its pieces. -/
theorem Lexical.tokens?_text (h : Lexical s) (d : Dialect) :
    tokens? d (text d s) = some (tokensFrom d 0 s) := by
  obtain ⟨m', scanned⟩ := h.scans (d := d) (m := .between) rfl (.inl rfl) 0
  exact scanned.tokens?

/-! ### Building lexical statements -/

/-- Whether a statement of fixed texts is lexical. -/
def isLexical : Statement → Bool
  | [] => true
  | piece :: rest =>
    piece.isPlain && (rest.head?.all fun next => piece.closesApart || next.opensApart) &&
      isLexical rest

theorem Lexical.nil : Lexical [] := ⟨by simp, .nil⟩

theorem Lexical.of_check (h : isLexical s = true) : Lexical s := by
  induction s with
  | nil => exact Lexical.nil
  | cons piece s ih =>
    simp only [isLexical, Bool.and_eq_true] at h
    obtain ⟨⟨plain, apart⟩, rest⟩ := h
    refine ⟨?_, List.isChain_cons.2 ⟨fun next hn => ?_, (ih rest).apart⟩⟩
    · rintro p (_ | ⟨_, hp⟩)
      · exact Piece.IsPlain.of_check plain
      · exact (ih rest).plain p hp
    · rw [Option.mem_def.1 hn] at apart
      simpa [Piece.Apart] using apart

theorem Lexical.append (hs : Lexical s) (ht : Lexical t)
    (apart : ∀ p ∈ s.getLast?, ∀ q ∈ t.head?, p.Apart q) : Lexical (s ++ t) := by
  refine ⟨fun p hp => ?_, hs.apart.append ht.apart apart⟩
  exact (List.mem_append.1 hp).elim (hs.plain p) (ht.plain p)

/-- Lexical statements one after the other, with a text between them that keeps them apart. -/
theorem Lexical.joined {separator : String} {parts : List Statement}
    (fixed : isPlainText separator = true)
    (between : startsApart separator = true ∧ endsApart separator = true)
    (each : ∀ s ∈ parts, Lexical s) : Lexical (joined separator parts) := by
  have middle : Lexical [.text separator] :=
    Lexical.of_check (by simp [isLexical, Piece.isPlain, fixed])
  unfold Statement.joined
  induction parts with
  | nil => exact Lexical.nil
  | cons s rest ih =>
    cases rest with
    | nil => simpa [List.intercalate] using each
    | cons t rest =>
      have tail := ih fun s hs => each s (List.mem_cons_of_mem _ hs)
      rw [List.intercalate_cons_cons]
      refine ((each s (by simp)).append middle ?_).append tail ?_
      · intro p _ q hq
        cases hq
        exact .inr between.1
      · intro p hp q _
        rw [List.getLast?_concat] at hp
        cases hp
        exact .inl between.2

theorem Lexical.joined_map {σ : Type} {separator : String} {f : σ → Statement} {l : List σ}
    (fixed : isPlainText separator = true)
    (between : startsApart separator = true ∧ endsApart separator = true)
    (each : ∀ a ∈ l, Lexical (f a)) : Lexical (Statement.joined separator (l.map f)) := by
  refine Lexical.joined fixed between fun s hs => ?_
  obtain ⟨a, ha, rfl⟩ := List.mem_map.1 hs
  exact each a ha

/-! ### What the tokens hold -/

theorem idents_tokensFrom (plain : ∀ piece ∈ s, piece.IsPlain) (d : Dialect) (count : Nat) :
    (tokensFrom d count s).filterMap Token.ident? = idents s := by
  induction s generalizing count with
  | nil => rfl
  | cons piece s ih =>
    have rest := ih (fun p hp => plain p (List.mem_cons_of_mem piece hp)) (count + piece.binds)
    have here : (piece.tokensAfter d count).filterMap Token.ident? =
        idents [piece] := by
      cases piece with
      | text s => exact List.filterMap_eq_nil_iff.2 (plain (.text s) (by simp)).ident?_eq_none
      | _ => rfl
    rw [tokensFrom, List.filterMap_append, rest, here, ← idents_append, List.singleton_append]

theorem placeholders_tokensFrom (plain : ∀ piece ∈ s, piece.IsPlain) (d : Dialect) (count : Nat) :
    (tokensFrom d count s).filterMap Token.placeholder? =
      (List.range' (count + 1) (params s).length).map d.number? := by
  induction s generalizing count with
  | nil => rfl
  | cons piece s ih =>
    have rest := ih (fun p hp => plain p (List.mem_cons_of_mem piece hp)) (count + piece.binds)
    have here : (piece.tokensAfter d count).filterMap Token.placeholder? =
        (List.range' (count + 1) piece.binds).map d.number? := by
      cases piece with
      | text s => exact List.filterMap_eq_nil_iff.2 (plain (.text s) (by simp)).placeholder?_eq_none
      | _ => rfl
    rw [tokensFrom, List.filterMap_append, rest, here, ← List.map_append, length_params_cons,
      Nat.add_right_comm, ← List.range'_append_1]

theorem escapes_append {ts : List Token} (plain : escapeWord ∉ ts) (us : List Token) :
    escapes (ts ++ us) = escapes us := by
  induction ts with
  | nil => rfl
  | cons t ts ih =>
    rw [List.mem_cons, not_or] at plain
    rw [List.cons_append, escapes, if_neg (Ne.symm plain.1), ih plain.2]

/-- Every word that introduces an escape character is followed by the literal of a backslash. -/
theorem escapes_tokensFrom (plain : ∀ piece ∈ s, piece.IsPlain) (d : Dialect) (count : Nat) :
    ∀ next ∈ escapes (tokensFrom d count s), next = some escapeLiteral := by
  induction s generalizing count with
  | nil => simp [tokensFrom, escapes]
  | cons piece s ih =>
    have rest := ih (fun p hp => plain p (List.mem_cons_of_mem piece hp)) (count + piece.binds)
    rw [tokensFrom]
    cases piece with
    | text s => rwa [Piece.tokensAfter, escapes_append (plain (.text s) (by simp)).not_escape]
    | escapeClause =>
      have here : escapes (Piece.tokensAfter d count .escapeClause ++
          tokensFrom d (count + Piece.binds .escapeClause) s) =
          some escapeLiteral :: escapes (tokensFrom d (count + Piece.binds .escapeClause) s) := rfl
      rw [here]
      exact List.forall_mem_cons.2 ⟨rfl, rest⟩
    | _ => rwa [Piece.tokensAfter, escapes_append (by simp [escapeWord])]

end Statement
end QueryPlan.Sql
