import QueryPlan.Proofs.Conformance
import QueryPlan.Proofs.Filtering
import QueryPlan.Proofs.RowOrder
import QueryPlan.Proofs.Sql.Ordering

/-!
# Null placement in every dialect

A dialect without `NULLS FIRST` and `NULLS LAST` sorts by `IS NULL` before it sorts by the column.
That is exact: the items read back from the text of a statement put any two rows in the same order
in every dialect, namely that of the plan's terms, if each term says where nulls stand
(`null_placement_portable`). What a database does with nulls by itself never shows.
-/

namespace QueryPlan
set_option autoImplicit false
open Sql Sql.Statement

/-! ### The order by items -/

/-- The order of values that may be null where it is not said where nulls stand: null is above all
values in PostgreSQL and below them elsewhere. -/
def Sql.Dialect.compareNullable (d : Dialect) (order : Value → Value → Ordering) :
    Option Value → Option Value → Ordering
  | some x, some y => order x y
  | none, none => .eq
  | none, some _ => if d = .postgres then .gt else .lt
  | some _, none => if d = .postgres then .lt else .gt

section
variable (d : Dialect) (engine : Engine) (order : Value → Value → Ordering)

/-- The order of two rows by one item, from that of values that are not null. A test for null is
one or zero. -/
def Sql.SortItem.compare (i : SortItem) (params : List Value) (row row' : Row) : Ordering :=
  match i.key with
  | .value a =>
    let x := a.value engine row params
    let y := a.value engine row' params
    match i.nulls with
    | some placement => placement.order (fun x y => i.direction.orient (order x y)) x y
    | none => i.direction.orient (d.compareNullable order x y)
  | .isNull a =>
    let null (row : Row) : Nat := (a.value engine row params).isNone.toNat
    i.direction.orient (Ord.compare (null row) (null row'))

/-- The order of two rows by several items, the first one being the most significant. -/
def ordering (items : List SortItem) (params : List Value) (row row' : Row) : Ordering :=
  lexicographic (items.map fun i => i.compare d engine order params row row')

end

/-! ### The items of a term -/

namespace OrderTerm

/-- What a term compares. -/
def key (t : OrderTerm) : Scalar :=
  if t.ignoringCase then .lower (.column t.column) else .column t.column

/-- The items that a term is written as. -/
def sortItems (d : Dialect) (t : OrderTerm) : List SortItem :=
  match t.nulls with
  | some placement =>
    if d.placesNulls then [⟨.value t.key, t.direction, some placement⟩]
    else [⟨.isNull (.column t.column), placement.direction, none⟩,
      ⟨.value t.key, t.direction, none⟩]
  | none => [⟨.value t.key, t.direction, none⟩]

theorem value_key (t : OrderTerm) (engine : Engine) (row : Row) (params : List Value) :
    t.key.value engine row params =
      (row t.column).map fun x => if t.ignoringCase then engine.lower x else x := by
  unfold key
  split
  · rfl
  · simp

theorem filterMap_value?_sortItems (d : Dialect) (t : OrderTerm) :
    (t.sortItems d).filterMap SortItem.value? = [(t.key, t.direction)] := by
  unfold sortItems
  cases t.nulls <;> cases d.placesNulls <;> rfl

/-- An item says where nulls stand in the dialects that have words for it, and only there. -/
theorem nulls_of_mem_sortItems {d : Dialect} {t : OrderTerm} (explicit : t.nulls.isSome = true)
    {i : SortItem} (member : i ∈ t.sortItems d) : i.nulls.isSome = (d != .mysql) := by
  obtain ⟨placement, said⟩ := Option.isSome_iff_exists.1 explicit
  unfold sortItems at member
  rw [said] at member
  cases d with
  | postgres | sqlite =>
    obtain rfl := List.mem_singleton.1 member
    rfl
  | mysql =>
    obtain rfl | value := List.mem_cons.1 member
    · rfl
    · obtain rfl := List.mem_singleton.1 value
      rfl

/-- The test for null that stands before a value tells apart what the placement of nulls does, and
leaves the rest to the value. Where a dialect puts nulls by itself does not show. -/
theorem lexicographic_isNull (d : Dialect) (placement : NullPlacement)
    (order : Value → Value → Ordering) (direction : Direction) (x y : Option Value) :
    lexicographic [placement.direction.orient (Ord.compare x.isNone.toNat y.isNone.toNat),
      direction.orient (d.compareNullable order x y)] =
      placement.order (fun x y => direction.orient (order x y)) x y := by
  cases x with
  | none =>
    cases y with
    | none => cases placement <;> cases direction <;> rfl
    | some y => cases placement <;> rfl
  | some x =>
    cases y with
    | none => cases placement <;> rfl
    | some y =>
      -- Neither is null, so the test ties.
      have tie : placement.direction.orient .eq = .eq := by cases placement <;> rfl
      have decided : (placement.direction.orient .eq).then
          ((direction.orient (order x y)).then .eq) = direction.orient (order x y) := by
        rw [tie, Ordering.eq_then, Ordering.then_eq]
      exact decided

variable {engine : Engine} {order : Value → Value → Ordering} {placement : NullPlacement}
  {t : OrderTerm}

/-- A term that says where nulls stand compares the values of its key. -/
theorem compare_eq_order (said : t.nulls = some placement) (nulls : Direction → NullPlacement)
    (params : List Value) (row row' : Row) :
    t.compare ⟨order, engine.lower, nulls⟩ row row' =
      placement.order (fun x y => t.direction.orient (order x y))
        (t.key.value engine row params) (t.key.value engine row' params) := by
  unfold OrderTerm.compare
  rw [said, value_key, value_key]
  cases row t.column <;> cases row' t.column <;> rfl

/-- The items of a term put rows in the order of the term. -/
theorem ordering_sortItems (d : Dialect) (explicit : t.nulls.isSome = true)
    (nulls : Direction → NullPlacement) (params : List Value) (row row' : Row) :
    ordering d engine order (t.sortItems d) params row row' =
      t.compare ⟨order, engine.lower, nulls⟩ row row' := by
  obtain ⟨placement, said⟩ := Option.isSome_iff_exists.1 explicit
  rw [compare_eq_order said nulls params]
  unfold sortItems
  rw [said]
  cases d.placesNulls with
  | true => exact Ordering.then_eq
  | false =>
    have null (row : Row) : (row t.column).isNone = (t.key.value engine row params).isNone := by
      rw [value_key, Option.isNone_map]
    have items := lexicographic_isNull d placement order t.direction
      (t.key.value engine row params) (t.key.value engine row' params)
    rw [← null row, ← null row'] at items
    exact items

/-- The items of several terms put rows in the order of the terms. -/
theorem ordering_flatMap (d : Dialect) {terms : List OrderTerm}
    (explicit : ∀ t ∈ terms, t.nulls.isSome = true) (nulls : Direction → NullPlacement)
    (params : List Value) (row row' : Row) :
    ordering d engine order (terms.flatMap (sortItems d)) params row row' =
      comparison ⟨order, engine.lower, nulls⟩ terms row row' := by
  induction terms with
  | nil => rfl
  | cons t terms ih =>
    obtain ⟨first, others⟩ := List.forall_mem_cons.1 explicit
    have items : ordering d engine order ((t :: terms).flatMap (sortItems d)) params row row' =
        (ordering d engine order (t.sortItems d) params row row').then
          (ordering d engine order (terms.flatMap (sortItems d)) params row row') := by
      rw [ordering, List.flatMap_cons, List.map_append, lexicographic_append]
      rfl
    rw [items, ordering_sortItems d first nulls, ih others]
    rfl

theorem filterMap_value?_flatMap (d : Dialect) (terms : List OrderTerm) :
    (terms.flatMap (sortItems d)).filterMap SortItem.value? =
      terms.map fun t => (t.key, t.direction) := by
  induction terms with
  | nil => rfl
  | cons t terms ih =>
    rw [List.flatMap_cons, List.filterMap_append, ih, filterMap_value?_sortItems]
    rfl

end OrderTerm

/-! ### Reading terms -/

/-- A part of an ordering is read as an item. -/
abbrev IsSortItem (d : Dialect) (s : Statement) (i : SortItem) : Prop :=
  Denotes (Reader.sortItem d) (fun i _ _ => i) [.word "NULLS"] s fun _ => i

/-- Without its word there is no placement. -/
theorem placement_of_stops (d : Dialect) {rest : List Token}
    (stops : ∀ t ∈ rest.head?, t ∉ [Token.word "NULLS"]) :
    Reader.placement d rest = (none, rest) := by
  have unread : Reader.placementWords rest = (none, rest) := by
    unfold Reader.placementWords
    split
    · exact absurd (List.mem_singleton_self _) (stops _ rfl)
    · exact absurd (List.mem_singleton_self _) (stops _ rfl)
    · rfl
  cases d with
  | postgres => exact unread
  | mysql => rfl
  | sqlite => exact unread

/-- The words of a placement are written only where they are read. -/
theorem placement_keyword {d : Dialect} (places : d.placesNulls = true) (placement : NullPlacement)
    (rest : List Token) :
    Reader.placement d (wordsOf (" " ++ placement.keyword) ++ rest) = (some placement, rest) := by
  have read : Reader.placementWords (wordsOf (" " ++ placement.keyword) ++ rest) =
      (some placement, rest) := by
    cases placement <;> rfl
  cases d with
  | postgres => exact read
  | mysql => cases places
  | sqlite => exact read

theorem wordsOf_direction (direction : Direction) :
    wordsOf (" " ++ direction.keyword) = [.word direction.keyword] := by
  cases direction <;> rfl

theorem direction_keyword (direction : Direction) (rest : List Token) :
    Reader.direction (.word direction.keyword :: rest) = (direction, rest) := by
  cases direction <;> rfl

/-- Reading an item part by part. -/
theorem sortItem_eq {d : Dialect} {key : SortKey} {direction : Direction}
    {nulls : Option NullPlacement} {tokens after last rest : List Token}
    (read_key : Reader.sortKey tokens = some (key, after))
    (read_direction : Reader.direction after = (direction, last))
    (read_nulls : Reader.placement d last = (nulls, rest)) :
    Reader.sortItem d tokens = some (⟨key, direction, nulls⟩, rest) := by
  simp only [Reader.sortItem, read_key, read_direction, read_nulls, Option.bind_eq_bind,
    Option.bind_some]

namespace OrderTerm

/-- The column as a term compares it. -/
def keyPieces (t : OrderTerm) : Statement :=
  if t.ignoringCase then [.text "LOWER(", .ident t.column, .text ")"] else [.ident t.column]

/-- The parts that a term is written as, each of them one item. -/
def parts (d : Dialect) (t : OrderTerm) : List Statement :=
  match t.nulls with
  | some placement =>
    if d.placesNulls then
      [t.keyPieces ++ [.text (" " ++ t.direction.keyword), .text (" " ++ placement.keyword)]]
    else [[.ident t.column, .text (" IS NULL " ++ placement.direction.keyword)],
      t.keyPieces ++ [.text (" " ++ t.direction.keyword)]]
  | none => [t.keyPieces ++ [.text (" " ++ t.direction.keyword)]]

theorem isSortItem_isNull (d : Dialect) (column : String) (direction : Direction) :
    IsSortItem d [.ident column, .text (" IS NULL " ++ direction.keyword)]
      ⟨.isNull (.column column), direction, none⟩ := by
  intro count
  refine ⟨_, fun rest stops => ?_, fun _ _ _ _ => rfl⟩
  have last := placement_of_stops d stops
  cases direction <;> exact sortItem_eq rfl rfl last

theorem sortKey_keyPieces (t : OrderTerm) (count : Nat) (rest : List Token) :
    Reader.sortKey (tokensFrom .postgres count t.keyPieces ++ .word t.direction.keyword :: rest) =
      some (.value t.key, .word t.direction.keyword :: rest) := by
  obtain ⟨column, direction, nulls, ignoringCase⟩ := t
  cases direction <;> cases ignoringCase <;> rfl

/-- The tokens of a key with its direction and what follows. -/
theorem tokensFrom_keyPieces (t : OrderTerm) (count : Nat) (s : Statement) :
    tokensFrom .postgres count (t.keyPieces ++ .text (" " ++ t.direction.keyword) :: s) =
      tokensFrom .postgres count t.keyPieces ++ .word t.direction.keyword ::
        tokensFrom .postgres (count + (params t.keyPieces).length) s := by
  rw [tokensFrom_append, tokensFrom, Piece.tokensAfter, wordsOf_direction]
  rfl

theorem isSortItem_value (d : Dialect) (t : OrderTerm) :
    IsSortItem d (t.keyPieces ++ [.text (" " ++ t.direction.keyword)])
      ⟨.value t.key, t.direction, none⟩ := by
  intro count
  refine ⟨_, fun rest stops => ?_, fun _ _ _ _ => rfl⟩
  rw [tokensFrom_keyPieces, List.append_assoc]
  exact sortItem_eq (t.sortKey_keyPieces count rest) (direction_keyword t.direction rest)
    (placement_of_stops d stops)

theorem isSortItem_placed {d : Dialect} (places : d.placesNulls = true) (t : OrderTerm)
    (placement : NullPlacement) :
    IsSortItem d
      (t.keyPieces ++ [.text (" " ++ t.direction.keyword), .text (" " ++ placement.keyword)])
      ⟨.value t.key, t.direction, some placement⟩ := by
  intro count
  refine ⟨_, fun rest _ => ?_, fun _ _ _ _ => rfl⟩
  have words : tokensFrom .postgres (count + (params t.keyPieces).length)
      [.text (" " ++ placement.keyword)] = wordsOf (" " ++ placement.keyword) := by
    rw [tokensFrom, tokensFrom, List.append_nil, Piece.tokensAfter]
  rw [tokensFrom_keyPieces, words, List.append_assoc, List.cons_append]
  exact sortItem_eq (t.sortKey_keyPieces count _) (direction_keyword t.direction _)
    (placement_keyword places placement rest)

/-- The parts of a term are read as its items. -/
theorem isSortItem_parts (d : Dialect) (t : OrderTerm) :
    (t.parts d).Forall₂ (IsSortItem d) (t.sortItems d) := by
  unfold parts sortItems
  cases t.nulls with
  | none => exact .cons (isSortItem_value d t) .nil
  | some placement =>
    cases places : d.placesNulls with
    | true => exact .cons (isSortItem_placed places t placement) .nil
    | false =>
      exact .cons (isSortItem_isNull d t.column placement.direction)
        (.cons (isSortItem_value d t) .nil)

theorem parts_ne_nil (d : Dialect) (t : OrderTerm) : t.parts d ≠ [] := by
  unfold parts
  cases t.nulls <;> cases d.placesNulls <;> simp

/-- The comma behind a test for null is a token of its own. -/
theorem wordsOf_isNull (placement : NullPlacement) :
    wordsOf (" IS NULL " ++ placement.direction.keyword ++ ", ") =
      wordsOf (" IS NULL " ++ placement.direction.keyword) ++ [.mark ','] := by
  cases placement <;> rfl

/-- A term has the tokens of its parts with commas between them. -/
theorem tokensFrom_pieces (d : Dialect) (t : OrderTerm) (count : Nat) :
    tokensFrom .postgres count (t.pieces d) =
      tokensFrom .postgres count (joined ", " (t.parts d)) := by
  obtain ⟨column, direction, nulls, ignoringCase⟩ := t
  cases nulls with
  | none => exact congrArg _ (joined_singleton ", " _).symm
  | some placement =>
    cases places : d.placesNulls with
    | true =>
      simp only [pieces, parts, places, if_true, joined_singleton]
      rfl
    | false =>
      have comma : wordsOf ", " = [.mark ','] := rfl
      have test : tokensFrom .postgres count
          [.ident column, .text (" IS NULL " ++ placement.direction.keyword ++ ", ")] =
          tokensFrom .postgres count
            [.ident column, .text (" IS NULL " ++ placement.direction.keyword)] ++
            [.mark ','] := by
        simp only [tokensFrom, Piece.tokensAfter, wordsOf_isNull, List.append_nil,
          List.append_assoc]
      simp only [pieces, parts, places, Bool.false_eq_true, if_false, joined_singleton,
        tokensFrom_joined_cons_cons comma]
      rw [List.append_assoc, tokensFrom_append, test, List.append_assoc]
      rfl

theorem params_joined_parts (d : Dialect) (t : OrderTerm) :
    params (joined ", " (t.parts d)) = params (t.pieces d) := by
  obtain ⟨column, direction, nulls, ignoringCase⟩ := t
  rw [params_pieces]
  cases nulls <;> cases places : d.placesNulls <;> cases ignoringCase <;>
    simp [parts, keyPieces, places, params]

end OrderTerm

/-- Lists of parts one after the other, with the separator also between them. -/
theorem joined_append (separator : String) {parts : List Statement} (nonempty : parts ≠ [])
    (s : Statement) (others : List Statement) :
    joined separator (parts ++ s :: others) =
      joined separator parts ++ .text separator :: joined separator (s :: others) := by
  unfold joined
  induction parts with
  | nil => exact absurd rfl nonempty
  | cons t parts ih =>
    have more : parts ++ s :: others ≠ [] := by simp
    rw [List.cons_append, List.intercalate_cons_of_ne_nil more]
    cases parts with
    | nil => simp
    | cons u parts =>
      rw [ih (List.cons_ne_nil u parts), List.intercalate_cons_cons]
      simp only [List.append_assoc]

/-- Terms with commas between them have the tokens of all their parts with commas between them. -/
theorem tokensFrom_joined_parts (d : Dialect) (terms : List OrderTerm) (count : Nat) :
    tokensFrom .postgres count (joined ", " (terms.map (OrderTerm.pieces d))) =
      tokensFrom .postgres count (joined ", " (terms.flatMap (OrderTerm.parts d))) := by
  have comma : wordsOf ", " = [.mark ','] := rfl
  induction terms generalizing count with
  | nil => rfl
  | cons t terms ih =>
    rw [List.map_cons, List.flatMap_cons]
    cases terms with
    | nil =>
      rw [List.map_nil, List.flatMap_nil, List.append_nil, joined_singleton, t.tokensFrom_pieces]
    | cons u terms =>
      have tail := ih (count + (params (t.pieces d)).length)
      rw [List.map_cons] at tail ⊢
      obtain ⟨s, others, cons⟩ := List.exists_cons_of_ne_nil
        (List.append_ne_nil_of_left_ne_nil (u.parts_ne_nil d) (terms.flatMap (OrderTerm.parts d)))
      rw [List.flatMap_cons, cons] at tail ⊢
      rw [joined_append ", " (t.parts_ne_nil d), tokensFrom_append,
        tokensFrom_joined_cons_cons comma, tokensFrom, t.tokensFrom_pieces, tail,
        t.params_joined_parts, Piece.tokensAfter, comma]
      rfl

/-- The parts of several terms are read as the items of all of them. -/
theorem isSortItem_flatMap (d : Dialect) (terms : List OrderTerm) :
    (terms.flatMap (OrderTerm.parts d)).Forall₂ (IsSortItem d)
      (terms.flatMap (OrderTerm.sortItems d)) := by
  induction terms with
  | nil => exact .nil
  | cons t terms ih => exact List.rel_append (t.isSortItem_parts d) ih

/-! ### Words that a statement avoids -/

/-- Whether a piece does not write a word. The escape clause writes its own. -/
def Sql.Piece.avoids (word : String) : Piece → Bool
  | .text s => .word word ∉ wordsOf s
  | .escapeClause => word ≠ "ESCAPE"
  | _ => true

/-- A statement that does not write a word. -/
def Sql.Statement.Avoids (word : String) (s : Statement) : Prop :=
  ∀ piece ∈ s, piece.avoids word = true

namespace Sql.Statement.Avoids
variable {word : String} {s t : Statement}

theorem of_check (h : s.all (Piece.avoids word) = true) : s.Avoids word := List.all_eq_true.1 h

theorem append (hs : s.Avoids word) (ht : t.Avoids word) : Avoids word (s ++ t) := fun piece h =>
  (List.mem_append.1 h).elim (hs piece) (ht piece)

theorem joined {separator : String} (between : (Piece.text separator).avoids word = true)
    {parts : List Statement} (each : ∀ s ∈ parts, s.Avoids word) :
    Avoids word (joined separator parts) := by
  intro piece h
  obtain rfl | ⟨part, member, inside⟩ := mem_joined h
  · exact between
  · exact each part member piece inside

/-- The word is not among the tokens. -/
theorem notMem_tokensFrom (h : s.Avoids word) (count : Nat) :
    .word word ∉ tokensFrom .postgres count s := by
  induction s generalizing count with
  | nil => exact List.not_mem_nil
  | cons piece s ih =>
    have first := h piece (List.mem_cons_self ..)
    have rest := ih (fun p hp => h p (List.mem_cons_of_mem piece hp)) (count + piece.binds)
    rw [tokensFrom, List.mem_append, not_or]
    refine ⟨?_, rest⟩
    cases piece with
    | text s => simpa [Piece.avoids, Piece.tokensAfter] using first
    | escapeClause =>
      simpa [Piece.avoids, Piece.tokensAfter, escapeWord, escapeLiteral] using first
    | _ => simp [Piece.tokensAfter]

end Sql.Statement.Avoids

/-! ### Plans -/

/-- Where a statement does not write `ORDER`, its ordering is what comes after it. -/
theorem dropWhile_order {s : Statement} (avoids : s.Avoids "ORDER") (count : Nat)
    (rest : List Token) :
    (tokensFrom .postgres count s ++ rest).dropWhile (· ≠ .word "ORDER") =
      rest.dropWhile (· ≠ .word "ORDER") := by
  refine List.dropWhile_append_of_pos fun t ht => decide_eq_true fun same => ?_
  exact avoids.notMem_tokensFrom count (same ▸ ht)

theorem Condition.avoids_order (c : Condition) : c.pieces.Avoids "ORDER" := by
  obtain ⟨field, kind, operand⟩ := c
  cases operand with
  | list values =>
    have members : Avoids "ORDER" (joined ", " (values.map fun value => [.param value])) :=
      .joined rfl (List.forall_mem_map.2 fun _ _ => .of_check rfl)
    cases kind with
    | isIn => exact ((Avoids.of_check rfl).append members).append (.of_check rfl)
    | notIn => exact ((Avoids.of_check rfl).append members).append (.of_check rfl)
    | _ => exact .of_check rfl
  | _ => cases kind <;> exact .of_check rfl

namespace Plan

theorem avoids_order_conjunction (conditions : List Condition) :
    (conjunction conditions).Avoids "ORDER" :=
  .joined rfl (List.forall_mem_map.2 fun c _ => c.avoids_order)

theorem avoids_order_parenthesized {s : Statement} (h : s.Avoids "ORDER") :
    (parenthesized s).Avoids "ORDER" :=
  ((Avoids.of_check (s := [.text "("]) rfl).append h).append (.of_check rfl)

theorem avoids_order_whereClause (p : Plan) : p.whereClause.Avoids "ORDER" := by
  unfold whereClause
  split
  · refine (Avoids.of_check (s := [.text " WHERE "]) rfl).append (.joined rfl fun s hs => ?_)
    obtain here | there := List.mem_append.1 hs
    · obtain ⟨c, -, rfl⟩ := List.mem_map.1 here
      exact c.avoids_order
    · split at there
      · cases there
      · obtain rfl := List.mem_singleton.1 there
        exact avoids_order_parenthesized (.joined rfl (List.forall_mem_map.2 fun group _ =>
          avoids_order_parenthesized (avoids_order_conjunction group)))
  · exact .of_check rfl

theorem tokensFrom_orderClause (p : Plan) (d : Dialect) (nonempty : p.order ≠ []) (count : Nat) :
    tokensFrom .postgres count (p.orderClause d) =
      .word "ORDER" :: .word "BY" :: tokensFrom .postgres count
        (joined ", " (p.order.flatMap (OrderTerm.parts d))) := by
  rw [← tokensFrom_joined_parts]
  simp only [orderClause, List.isEmpty_iff, nonempty, if_false]
  rfl

/-- An ordering is read as the items of its terms. -/
theorem orderBy?_orderClause (p : Plan) (d : Dialect) (nonempty : p.order ≠ []) (count : Nat)
    {rest : List Token} (ends : endsOrder rest = true) :
    orderBy? d (tokensFrom .postgres count (p.orderClause d) ++ rest) =
      some (p.order.flatMap (OrderTerm.sortItems d)) := by
  have comma : wordsOf ", " = [.mark ','] := rfl
  have stops : ∀ t ∈ rest.head?, t ∉ [Token.mark ',', .word "NULLS"] := by
    intro t ht
    rw [endsOrder, Option.mem_def.1 ht] at ends
    simp only [Option.all_some, decide_eq_true_eq] at ends
    simp [ends]
  have some_part : p.order.flatMap (OrderTerm.parts d) ≠ [] := by
    obtain ⟨t, terms, cons⟩ := List.exists_cons_of_ne_nil nonempty
    rw [cons, List.flatMap_cons]
    exact List.append_ne_nil_of_left_ne_nil (t.parts_ne_nil d) _
  obtain ⟨⟨first, more⟩, taken, meant⟩ := Denotes.items comma (by simp) some_part
    (List.forall₂_map_right_iff (f := fun (i : SortItem) _ => i) |>.2
      (isSortItem_flatMap d p.order)) count
  have items : first :: more = p.order.flatMap (OrderTerm.sortItems d) := by
    simpa [Function.comp_def] using
      meant (fun _ => none) (List.replicate count (.int 0)) [] (by simp)
  rw [p.tokensFrom_orderClause d nonempty, List.cons_append, List.cons_append, orderBy?,
    taken rest stops, ← items]
  exact if_pos ends

/-- The text of a statement puts rows in order by the items of the plan's terms. -/
theorem orderOf?_select (p : Plan) (table : String) (d : Dialect) :
    orderOf? d ((p.select table d).text d) = some (p.order.flatMap (OrderTerm.sortItems d)) := by
  have lexical := p.select_lexical table d
  have before : ([.text "SELECT * FROM ", .ident table] ++ p.whereClause : Statement).Avoids
      "ORDER" :=
    (Avoids.of_check rfl).append p.avoids_order_whereClause
  rw [orderOf?, lexical.tokens?_text, Option.bind_some, numberedFrom_tokensFrom lexical.plain,
    select, List.append_assoc, tokensFrom_append, dropWhile_order before, tokensFrom_append,
    tokensFrom_limitClause]
  by_cases unordered : p.order = []
  · have number (n : Nat) : Nat.repr n ≠ "ORDER" := repr_ne (c := 'O') (by decide) rfl n
    have clause : p.orderClause d = [] := by simp [orderClause, unordered]
    rw [clause, unordered, tokensFrom, List.nil_append]
    unfold limitTokens
    split <;> simp [List.dropWhile, number, orderBy?]
  · -- The clause starts with the word that is looked for.
    have ends : endsOrder (limitTokens p.window.limit p.window.offset) = true := rfl
    have read := p.orderBy?_orderClause d unordered
      (0 + (params ([.text "SELECT * FROM ", .ident table] ++ p.whereClause)).length) ends
    rw [p.tokensFrom_orderClause d unordered] at read ⊢
    exact read

end Plan

/-- **Null placement means the same in every dialect.** Let each term of a plan say where nulls
stand. Then the text of its statement has an ordering in every dialect, whose values are those of
the terms in the plan's order of significance. The items of PostgreSQL and SQLite all say where
nulls stand; those of MySQL, which has no words for it, do not. Yet its ordering puts any two rows,
nulls or not, like those of the other dialects, and all put them as the terms of the plan do. -/
theorem null_placement_portable {p : Plan} (explicit : ∀ t ∈ p.order, t.nulls.isSome = true)
    (table : String) :
    ∃ items : Dialect → List SortItem,
      (∀ d, orderOf? d ((p.select table d).text d) = some (items d) ∧
        ((items d).filterMap SortItem.value? = p.order.map fun t => (t.key, t.direction)) ∧
        ∀ i ∈ items d, i.nulls.isSome = (d != .mysql)) ∧
      ∀ engine order params row row',
        (∀ d, ordering .mysql engine order (items .mysql) params row row' =
          ordering d engine order (items d) params row row') ∧
        ∀ nulls, ordering .mysql engine order (items .mysql) params row row' =
          comparison ⟨order, engine.lower, nulls⟩ p.order row row' := by
  refine ⟨fun d => p.order.flatMap (OrderTerm.sortItems d), fun d =>
    ⟨p.orderOf?_select table d, OrderTerm.filterMap_value?_flatMap d p.order, fun i member => ?_⟩,
    fun engine order params row row' => ?_⟩
  · obtain ⟨t, among, written⟩ := List.mem_flatMap.1 member
    exact OrderTerm.nulls_of_mem_sortItems (explicit t among) written
  have alike (d : Dialect) (nulls : Direction → NullPlacement) :
      ordering d engine order (p.order.flatMap (OrderTerm.sortItems d)) params row row' =
        comparison ⟨order, engine.lower, nulls⟩ p.order row row' :=
    OrderTerm.ordering_flatMap d explicit nulls params row row'
  exact ⟨fun d => (alike .mysql fun _ => .first).trans (alike d fun _ => .first).symm,
    alike .mysql⟩

namespace Sample

/-- A plan that puts articles with the most views first, those of unknown views last, and orders by
titles without case among equals, those without title first. -/
def mostViewed : Plan where
  conditions := []
  groups := []
  order := [⟨"views", .desc, some .last, false⟩, ⟨"title", .asc, some .first, true⟩]
  window := ⟨1, 25, 25, 0⟩
  dropped := []

/-- The order of integers and of texts. -/
def byValue : Value → Value → Ordering
  | .int m, .int n => Ord.compare m n
  | .text s, .text t => Ord.compare s t
  | _, _ => .eq

/-- A row that is null but for one column. -/
def only (column : String) (v : Value) : Row := fun c => if c = column then some v else none

end Sample

open Sample in
/-- In every dialect a row of nulls comes after one with views, although the order is descending,
and before one that has but a title. -/
theorem unknown_views_last :
    (∀ t ∈ mostViewed.order, t.nulls.isSome = true) ∧
      ∃ items : Dialect → List SortItem, ∀ d,
        orderOf? d ((mostViewed.select "articles" d).text d) = some (items d) ∧
          ordering d engine byValue (items d) [] (fun _ => none) (only "views" (.int 3)) = .gt ∧
          ordering d engine byValue (items d) [] (fun _ => none) (only "title" (.text "b")) =
            .lt := by
  have explicit : ∀ t ∈ mostViewed.order, t.nulls.isSome = true := by decide
  obtain ⟨items, read, ordered⟩ := null_placement_portable explicit "articles"
  refine ⟨explicit, items, fun d => ⟨(read d).1, ?_, ?_⟩⟩
  · obtain ⟨alike, terms⟩ := ordered engine byValue [] (fun _ => none) (only "views" (.int 3))
    rw [← alike d, terms fun _ => .first]
    rfl
  · obtain ⟨alike, terms⟩ := ordered engine byValue [] (fun _ => none) (only "title" (.text "b"))
    rw [← alike d, terms fun _ => .first]
    rfl

end QueryPlan
