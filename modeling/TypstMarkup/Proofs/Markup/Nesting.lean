import TypstMarkup.Proofs.Markup.Delimiter
import TypstMarkup.Proofs.Markup.Indentation

/-!
Indentation and nesting. The text of a value is cut into pieces that open containers, close them,
end lines or do none of this. Then every line begins with as much indentation as there are
containers open where it begins, but for the one that it closes first.
-/
namespace TypstMarkup.Markup

/-! ### Pieces -/

/-- A piece of a text. A head opens a container, and a parenthesis closes it. -/
inductive Piece where
  | opening (head : List Char)
  | closing
  | lineEnd
  | plain (text : List Char)

namespace Piece

def text : Piece → List Char
  | .opening head => head
  | .closing => [')']
  | .lineEnd => ['\n']
  | .plain text => text

def isOpening : Piece → Bool
  | .opening _ => true
  | _ => false

def isClosing : Piece → Bool
  | .closing => true
  | _ => false

def isLineEnd : Piece → Bool
  | .lineEnd => true
  | _ => false

end Piece

def textOfPieces (ps : List Piece) : List Char :=
  ps.flatMap Piece.text

/-- The number of containers that pieces open. -/
def opened (ps : List Piece) : Nat :=
  ps.countP Piece.isOpening

/-- The number of containers that pieces close. -/
def closed (ps : List Piece) : Nat :=
  ps.countP Piece.isClosing

def firstLine (ps : List Piece) : List Piece :=
  ps.takeWhile (!·.isLineEnd)

/-- The pieces of a line within a container. -/
def Style.line (σ : Style) (depth : Nat) (cells : List (List Piece)) : List Piece :=
  .lineEnd :: .plain (σ.spaces depth) :: [.plain [',', ' ']].intercalate cells

/-- The pieces of the last line of a container. -/
def Style.lastLine (σ : Style) (depth : Nat) : List Piece :=
  [.lineEnd, .plain (σ.spaces depth), .closing]

namespace Tree

mutual

/-- The pieces of the text of a tree. -/
def pieces (σ : Style) (depth : Nat) : Tree → List Piece
  | .vector items => .opening σ.vector.dropLast ::
    (σ.line (depth + 1) (cellPieces σ (depth + 1) items) ++ σ.lastLine depth)
  | .matrix first rest => .opening σ.matrix.dropLast ::
    (σ.line (depth + 1) (cellPieces σ (depth + 1) first) ++
      (rowPieces σ (depth + 1) rest ++ σ.lastLine depth))
  | .null => [.plain (text σ depth .null)]
  | .bool b => [.plain (text σ depth (.bool b))]
  | .int n => [.plain (text σ depth (.int n))]
  | .fraction q => [.plain (text σ depth (.fraction q))]
  | .str s => [.plain (text σ depth (.str s))]

def cellPieces (σ : Style) (depth : Nat) : List Tree → List (List Piece)
  | [] => []
  | t :: rest => pieces σ depth t :: cellPieces σ depth rest

def rowPieces (σ : Style) (depth : Nat) : List (List Tree) → List Piece
  | [] => []
  | row :: rest => .plain [';'] ::
    (σ.line depth (cellPieces σ depth row) ++ rowPieces σ depth rest)

end

theorem cellPieces_eq_map (σ : Style) (depth : Nat) (items : List Tree) :
    cellPieces σ depth items = items.map (pieces σ depth) := by
  induction items with
  | nil => rfl
  | cons t rest ih => rw [cellPieces, ih, List.map_cons]

end Tree

/-! ### Texts of pieces -/

theorem textOfPieces_cons (p : Piece) (ps : List Piece) :
    textOfPieces (p :: ps) = p.text ++ textOfPieces ps := rfl

theorem textOfPieces_append (ps qs : List Piece) :
    textOfPieces (ps ++ qs) = textOfPieces ps ++ textOfPieces qs :=
  List.flatMap_append

theorem textOfPieces_intercalate (ps : List Piece) (cells : List (List Piece)) :
    textOfPieces (ps.intercalate cells) =
      (textOfPieces ps).intercalate (cells.map textOfPieces) := by
  induction cells with
  | nil => rfl
  | cons first rest ih =>
    cases rest with
    | nil => simp
    | cons second rest =>
      rw [List.intercalate_cons_cons, textOfPieces_append, textOfPieces_append, ih]
      simp

/-- A style whose indentation is on one line and whose heads end their line. -/
structure Style.Lined (σ : Style) : Prop where
  indent : '\n' ∉ σ.indent
  vector : ∃ body, '\n' ∉ body ∧ σ.vector = body ++ ['\n']
  matrix : ∃ body, '\n' ∉ body ∧ σ.matrix = body ++ ['\n']

section

variable {σ : Style}

theorem textOfPieces_line (depth : Nat) {cells : List Tree}
    (each : ∀ t ∈ cells, textOfPieces (t.pieces σ depth) = t.text σ depth) :
    textOfPieces (σ.line depth (cells.map (Tree.pieces σ depth))) =
      '\n' :: σ.row depth (Tree.texts σ depth cells) := by
  have texts : (cells.map (Tree.pieces σ depth)).map textOfPieces =
      Tree.texts σ depth cells := by
    rw [Tree.texts_eq_map, List.map_map]
    exact List.map_congr_left each
  rw [Style.line, textOfPieces_cons, textOfPieces_cons, textOfPieces_intercalate, texts]
  rfl

theorem textOfPieces_lastLine (depth : Nat) :
    textOfPieces (σ.lastLine depth) = σ.closing depth := rfl

theorem textOfPieces_rows (depth : Nat) {rows : List (List Tree)}
    (each : ∀ row ∈ rows, ∀ t ∈ row, textOfPieces (t.pieces σ depth) = t.text σ depth) :
    textOfPieces (Tree.rowPieces σ depth rows) =
      (Tree.rows σ depth rows).flatMap ([';', '\n'] ++ ·) := by
  induction rows with
  | nil => rfl
  | cons row rest ih =>
    rw [Tree.rowPieces, textOfPieces_cons, textOfPieces_append, Tree.cellPieces_eq_map,
      textOfPieces_line depth (each row List.mem_cons_self),
      ih fun row member => each row (List.mem_cons_of_mem _ member), Tree.rows, List.flatMap_cons]
    rfl

/-- The pieces make up the text. -/
theorem textOfPieces_pieces (lined : σ.Lined) (t : Tree) (depth : Nat) :
    textOfPieces (t.pieces σ depth) = t.text σ depth := by
  induction t generalizing depth with
  | null | bool b | int n | fraction q | str s =>
    rw [Tree.pieces]
    exact List.append_nil _
  | vector items ih =>
    obtain ⟨body, _, head⟩ := lined.vector
    rw [Tree.pieces, Tree.cellPieces_eq_map, textOfPieces_cons, textOfPieces_append,
      textOfPieces_line _ fun t member => ih t member _, textOfPieces_lastLine, Tree.text, head,
      List.dropLast_concat]
    simp [Piece.text]
  | matrix first rest ih =>
    obtain ⟨body, _, head⟩ := lined.matrix
    have firstLine := textOfPieces_line (σ := σ) (depth + 1) fun t member =>
      ih first List.mem_cons_self t member _
    have otherLines := textOfPieces_rows (σ := σ) (depth + 1) fun row listed t member =>
      ih row (List.mem_cons_of_mem _ listed) t member _
    rw [Tree.pieces, Tree.cellPieces_eq_map, textOfPieces_cons, textOfPieces_append,
      textOfPieces_append, firstLine, otherLines, textOfPieces_lastLine, Tree.text, head,
      List.dropLast_concat, intercalate_cons]
    simp [Piece.text]

end

/-! ### Line breaks -/

/-- Pieces that contain line breaks only where they end a line. -/
def BreaksAtEnds (ps : List Piece) : Prop :=
  ∀ p ∈ ps, p ≠ .lineEnd → '\n' ∉ p.text

theorem exists_split {ps : List Piece} (breaks : BreaksAtEnds ps) {before after : List Char}
    (same : textOfPieces ps = before ++ '\n' :: after) :
    ∃ qs rs, ps = qs ++ .lineEnd :: rs ∧ textOfPieces qs = before ∧ textOfPieces rs = after := by
  induction ps generalizing before with
  | nil => exact absurd same (by simp [textOfPieces])
  | cons p rest ih =>
    have breaksRest : BreaksAtEnds rest := fun q member => breaks q (List.mem_cons_of_mem _ member)
    by_cases isEnd : p = .lineEnd
    · subst isEnd
      cases before with
      | nil => exact ⟨[], rest, rfl, rfl, (List.cons.inj same).2⟩
      | cons c before =>
        obtain ⟨qs, rs, rfl, rfl, rfl⟩ := ih breaksRest (List.cons.inj same).2
        exact ⟨.lineEnd :: qs, rs, rfl, by rw [← (List.cons.inj same).1]; rfl, rfl⟩
    · have whole := breaks p List.mem_cons_self isEnd
      rw [textOfPieces_cons] at same
      obtain ⟨later, rfl, cut⟩ : ∃ later, before = p.text ++ later ∧
          textOfPieces rest = later ++ '\n' :: after := by
        rcases List.append_eq_append_iff.1 same with ⟨later, made, cut⟩ | ⟨later, made, cut⟩
        · exact ⟨later, made, cut⟩
        · cases later with
          | nil => exact ⟨[], by rw [made, List.append_nil, List.append_nil], cut.symm⟩
          | cons c later =>
            rw [made, ← (List.cons.inj cut).1] at whole
            exact absurd (by simp) whole
      obtain ⟨qs, rs, rfl, rfl, rfl⟩ := ih breaksRest cut
      exact ⟨p :: qs, rs, rfl, rfl, rfl⟩

/-! ### Containers open at the start of a line -/

section

variable {σ : Style} {base : Nat} {n m l : Nat} {ps qs : List Piece}

theorem opened_nil : opened [] = 0 := rfl

theorem closed_nil : closed [] = 0 := rfl

theorem opened_append (ps qs : List Piece) : opened (ps ++ qs) = opened ps + opened qs :=
  List.countP_append

theorem closed_append (ps qs : List Piece) : closed (ps ++ qs) = closed ps + closed qs :=
  List.countP_append

/-- Pieces between two places with certain numbers of open containers. Every line in them closes
at most one container and begins with the indentation of those that stay open, and no container is
closed on the first line. -/
structure Stretch (σ : Style) (base n m : Nat) (ps : List Piece) : Prop where
  balance : n + opened ps = m + closed ps
  breaks : BreaksAtEnds ps
  first : closed (firstLine ps) = 0
  lines : ∀ before after, ps = before ++ .lineEnd :: after →
    closed (firstLine after) ≤ 1 ∧
      ∃ k, n + opened before = closed before + closed (firstLine after) + k ∧
        σ.spaces (base + k) <+: textOfPieces after

theorem closed_firstLine_append (qs : List Piece) (first : closed (firstLine qs) = 0) :
    closed (firstLine (ps ++ qs)) = closed (firstLine ps) := by
  induction ps with
  | nil => rw [List.nil_append, first, firstLine]; rfl
  | cons p rest ih =>
    rw [List.cons_append, firstLine, firstLine, List.takeWhile_cons, List.takeWhile_cons]
    split
    · rw [closed, closed, List.countP_cons, List.countP_cons]
      exact congrArg (· + if p.isClosing then 1 else 0) ih
    · rfl

theorem Stretch.append (left : Stretch σ base n m ps) (right : Stretch σ base m l qs) :
    Stretch σ base n l (ps ++ qs) where
  balance := by
    have first := left.balance
    have second := right.balance
    rw [opened_append, closed_append]
    omega
  breaks p member := (List.mem_append.1 member).elim (left.breaks p) (right.breaks p)
  first := (closed_firstLine_append qs right.first).trans left.first
  lines before after same := by
    rcases List.append_eq_append_iff.1 same with ⟨later, rfl, cut⟩ | ⟨later, cut, rest⟩
    · obtain ⟨once, k, counted, indented⟩ := right.lines later after cut
      refine ⟨once, k, ?_, indented⟩
      have first := left.balance
      rw [opened_append, closed_append]
      omega
    · -- The break is in the first part, or it is the first piece of the second one.
      cases later with
      | nil =>
        obtain ⟨once, k, counted, indented⟩ := right.lines [] after rest.symm
        refine ⟨once, k, ?_, indented⟩
        have first := left.balance
        rw [cut, List.append_nil] at first
        rw [opened_nil, closed_nil] at counted
        omega
      | cons p later =>
        rw [List.cons_append] at rest
        obtain ⟨rfl, rfl⟩ := List.cons.inj rest
        obtain ⟨once, k, counted, indented⟩ := left.lines before later cut
        -- Nothing is closed on the first line of what is appended, so the count stays.
        rw [closed_firstLine_append qs right.first, textOfPieces_append]
        exact ⟨once, k, counted, indented.trans (List.prefix_append _ _)⟩

theorem stretch_nil : Stretch σ base n n [] where
  balance := rfl
  breaks := nofun
  first := rfl
  lines before after same := by simp at same

theorem Stretch.single {p : Piece} (balance : n + opened [p] = m + closed [p])
    (notClosing : p.isClosing = false) (whole : '\n' ∉ p.text) : Stretch σ base n m [p] where
  balance := balance
  breaks q member _ := by
    rw [List.mem_singleton.1 member]
    exact whole
  first := by cases p <;> first | rfl | cases notClosing
  lines before after same := by
    cases before with
    | nil =>
      rw [(List.cons.inj same).1] at whole
      exact absurd List.mem_cons_self whole
    | cons q before => simp at same

theorem stretch_plain {text : List Char} (whole : '\n' ∉ text) :
    Stretch σ base n n [.plain text] :=
  .single rfl rfl whole

theorem stretch_opening {head : List Char} (whole : '\n' ∉ head) :
    Stretch σ base n (n + 1) [.opening head] :=
  .single rfl rfl whole

/-- One line with the break in front of it. -/
theorem Stretch.line {k : Nat} (noEnd : .lineEnd ∉ ps) (breaks : BreaksAtEnds ps)
    (balance : n + opened ps = m + closed ps) (once : closed ps ≤ 1) (counted : n = closed ps + k)
    (indented : σ.spaces (base + k) <+: textOfPieces ps) :
    Stretch σ base n m (.lineEnd :: ps) where
  balance := balance
  breaks p member notEnd := by
    rcases List.mem_cons.1 member with isEnd | member
    · exact absurd isEnd notEnd
    · exact breaks p member notEnd
  first := rfl
  lines before after same := by
    cases before with
    | nil =>
      obtain ⟨-, rfl⟩ := List.cons.inj same
      have whole : firstLine ps = ps := by
        rw [firstLine, List.takeWhile_eq_self_iff]
        intro p member
        cases p with
        | lineEnd => exact absurd member noEnd
        | _ => rfl
      rw [whole, opened_nil, closed_nil]
      exact ⟨once, k, by omega, indented⟩
    | cons q before =>
      have member : .lineEnd ∈ ps := by simp [(List.cons.inj same).2]
      exact absurd member noEnd

theorem stretch_intercalate {gap : List Piece} (between : Stretch σ base n n gap)
    {cells : List (List Piece)} (each : ∀ cell ∈ cells, Stretch σ base n n cell) :
    Stretch σ base n n (gap.intercalate cells) := by
  induction cells with
  | nil => exact stretch_nil
  | cons first rest ih =>
    cases rest with
    | nil =>
      rw [List.intercalate_singleton]
      exact each first List.mem_cons_self
    | cons second rest =>
      rw [List.intercalate_cons_cons]
      exact ((each first List.mem_cons_self).append between).append
        (ih fun cell member => each cell (List.mem_cons_of_mem _ member))

end

/-! ### Trees without texts -/

section

variable {σ : Style} {base n : Nat}

/-- The pieces of a tree leave as many containers open as there were. -/
def Settled (σ : Style) (base : Nat) (t : Tree) : Prop :=
  ∀ n, Stretch σ base n n (t.pieces σ (base + n))

variable (lined : σ.Lined)

include lined

theorem spaces_oneLine (depth : Nat) : '\n' ∉ σ.spaces depth :=
  indentation_oneLine lined.indent depth

theorem stretch_lastLine : Stretch σ base (n + 1) n (σ.lastLine (base + n)) := by
  refine .line (by simp) (fun p member _ => ?_) rfl le_rfl (Nat.add_comm n 1)
    (List.prefix_append _ _)
  rcases List.mem_pair.1 member with rfl | rfl
  · exact spaces_oneLine lined _
  · decide

theorem stretch_line {cells : List Tree} (each : ∀ t ∈ cells, Settled σ base t) :
    Stretch σ base n n (σ.line (base + n) (cells.map (Tree.pieces σ (base + n)))) := by
  have indented : Stretch σ base n n [.lineEnd, .plain (σ.spaces (base + n))] := by
    refine .line (by simp) (fun p member _ => ?_) rfl (Nat.zero_le 1) (Nat.zero_add n).symm
      (List.prefix_append _ _)
    rw [List.mem_singleton.1 member]
    exact spaces_oneLine lined _
  have between : Stretch σ base n n [.plain [',', ' ']] := stretch_plain (by decide)
  refine indented.append (stretch_intercalate between fun cell listed => ?_)
  obtain ⟨t, member, rfl⟩ := List.mem_map.1 listed
  exact each t member n

theorem stretch_rows {rows : List (List Tree)} (each : ∀ row ∈ rows, ∀ t ∈ row, Settled σ base t) :
    Stretch σ base n n (Tree.rowPieces σ (base + n) rows) := by
  induction rows with
  | nil => exact stretch_nil
  | cons row rest ih =>
    rw [Tree.rowPieces, Tree.cellPieces_eq_map]
    have separator : Stretch σ base n n [.plain [';']] := stretch_plain (by decide)
    have later := ih fun row listed => each row (List.mem_cons_of_mem _ listed)
    exact separator.append ((stretch_line lined (each row List.mem_cons_self)).append later)

/-- A container opens once, and its elements are one level below what it stands in. -/
theorem settled_vector {items : List Tree} (each : ∀ t ∈ items, Settled σ base t) :
    Settled σ base (.vector items) := by
  intro n
  obtain ⟨body, whole, head⟩ := lined.vector
  rw [Tree.pieces, Tree.cellPieces_eq_map, head, List.dropLast_concat]
  exact (stretch_opening whole).append
    ((stretch_line (n := n + 1) lined each).append (stretch_lastLine lined))

theorem settled_matrix {first : List Tree} {rest : List (List Tree)}
    (each : ∀ row ∈ first :: rest, ∀ t ∈ row, Settled σ base t) :
    Settled σ base (.matrix first rest) := by
  intro n
  obtain ⟨body, whole, head⟩ := lined.matrix
  have rows := stretch_rows (n := n + 1) lined fun row listed =>
    each row (List.mem_cons_of_mem _ listed)
  rw [Tree.pieces, Tree.cellPieces_eq_map, head, List.dropLast_concat]
  exact (stretch_opening whole).append
    ((stretch_line (n := n + 1) lined (each first List.mem_cons_self)).append
      (rows.append (stretch_lastLine lined)))

end

theorem exists_trees {P : Tree → Prop} {items : List Value}
    (each : ∀ x ∈ items, ∃ t, Tree.ofValue? x = some t ∧ P t) :
    ∃ trees, Tree.ofItems? items = some trees ∧ ∀ t ∈ trees, P t := by
  induction items with
  | nil => exact ⟨[], rfl, nofun⟩
  | cons x rest ih =>
    obtain ⟨t, found, holds⟩ := each x List.mem_cons_self
    obtain ⟨trees, others, all⟩ := ih fun y member => each y (List.mem_cons_of_mem _ member)
    refine ⟨t :: trees, ?_, List.forall_mem_cons.2 ⟨holds, all⟩⟩
    rw [Tree.ofItems?, found, others]
    rfl

theorem exists_rows {P : Tree → Prop} {rows : List (List Value)}
    (each : ∀ row ∈ rows, ∀ x ∈ row, ∃ t, Tree.ofValue? x = some t ∧ P t) :
    ∃ trees, Tree.ofRows? rows = some trees ∧ ∀ row ∈ trees, ∀ t ∈ row, P t := by
  induction rows with
  | nil => exact ⟨[], rfl, nofun⟩
  | cons row rest ih =>
    obtain ⟨first, found, holds⟩ := exists_trees (each row List.mem_cons_self)
    obtain ⟨trees, others, all⟩ := ih fun y member => each y (List.mem_cons_of_mem _ member)
    refine ⟨first :: trees, ?_, List.forall_mem_cons.2 ⟨holds, all⟩⟩
    rw [Tree.ofRows?, found, others]
    rfl

theorem exists_settled {σ : Style} (lined : σ.Lined) (base : Nat) {n : Nat} {v : Value}
    (nested : Nested n v) : ∃ t, Tree.ofValue? v = some t ∧ Settled σ base t := by
  induction nested with
  | null n => exact ⟨.null, rfl, fun n => stretch_plain (by simp [Tree.text])⟩
  | bool n b => exact ⟨.bool b, rfl, fun n => stretch_plain (by cases b <;> simp [Tree.text])⟩
  | int n i => exact ⟨.int i, rfl, fun n => stretch_plain (numeral_oneLine i)⟩
  | fraction n q =>
    refine ⟨.fraction q, rfl, fun n => stretch_plain ?_⟩
    have numerator := numeral_oneLine q.num
    have denominator := numeral_oneLine q.den
    simp only [Tree.text, List.mem_cons, List.mem_append, numerator, denominator]
    decide
  | list each ih =>
    obtain ⟨trees, found, all⟩ := exists_trees ih
    exact ⟨.vector trees, by rw [Tree.ofValue?, found]; rfl, settled_vector lined all⟩
  | tuple each ih =>
    obtain ⟨trees, found, all⟩ := exists_trees ih
    exact ⟨.vector trees, by rw [Tree.ofValue?, found]; rfl, settled_vector lined all⟩
  | matrix each ih =>
    obtain ⟨first, found, inRow⟩ := exists_trees (ih _ List.mem_cons_self)
    obtain ⟨rest, others, inRest⟩ := exists_rows fun row listed =>
      ih row (List.mem_cons_of_mem _ listed)
    refine ⟨.matrix first rest, ?_, settled_matrix lined (List.forall_mem_cons.2 ⟨inRow, inRest⟩)⟩
    rw [Tree.ofValue?, found, others]
    rfl

/-! ### Texts of values -/

section

variable {r : Registry} (plain : r.IsBuiltin) {c : Context} {unit s : List Char} {d n : Nat}
  {v : Value}

theorem style_lined (lined : Lined c unit) : (Style.of c).Lined where
  indent := by
    rw [Style.of, lined.indent]
    exact lined.unit
  vector := by
    obtain ⟨body, whole, head⟩ := exists_head lined (show '\n' ∉ "vec".toList by decide)
      fun key member => List.mem_append_left matrixParameters member
    exact ⟨body, whole, congrArg Emission.written head⟩
  matrix := by
    obtain ⟨body, whole, head⟩ := exists_head lined (show '\n' ∉ "mat".toList by decide)
      fun key member => List.mem_append_right vectorParameters member
    exact ⟨body, whole, congrArg Emission.written head⟩

/-- The pieces of a container between delimiters. -/
def padded (p : List Char) (ps : List Piece) : List Piece :=
  .plain p :: (ps ++ [.plain p.reverse])

theorem textOfPieces_padded (p : List Char) (ps : List Piece) :
    textOfPieces (padded p ps) = p ++ textOfPieces ps ++ p.reverse := by
  have last : textOfPieces [.plain p.reverse] = p.reverse := List.append_nil _
  rw [padded, textOfPieces_cons, textOfPieces_append, last, List.append_assoc]
  rfl

theorem stretch_padded {σ : Style} {base n m : Nat} {p : List Char} {ps : List Piece}
    (whole : '\n' ∉ p) (inside : Stretch σ base n m ps) :
    Stretch σ base n m (padded p ps) :=
  (stretch_plain whole).append (inside.append
    (stretch_plain fun member => whole (List.mem_reverse.1 member)))

/-- Every line but the first begins with the unit of indentation for the depth and for each
container that is open at its start, except one that it closes. -/
def IndentedByNesting (v : Value) (c : Context) (unit : List Char) (d : Nat) (s : List Char) :
    Prop :=
  ∀ before after, s = before ++ '\n' :: after →
    ∃ t p qs rs k, Tree.ofValue? v = some t ∧ mathPad c = .ok p ∧
      padded p (t.pieces (Style.of c) d) = qs ++ .lineEnd :: rs ∧
      textOfPieces qs = before ∧ textOfPieces rs = after ∧ closed (firstLine rs) ≤ 1 ∧
      opened qs = closed qs + closed (firstLine rs) + k ∧ indentation unit (d + k) <+: after

include plain

/-- The text of a container is made of its pieces, in any mode. -/
theorem write_container_eq_text (isContainer : r.resolve v.kind = some (.builtin .vector) ∨
    r.resolve v.kind = some (.builtin .matrix)) (lined : Lined c unit) {t : Tree}
    (made : Tree.ofValue? v = some t) {p : List Char} (pad : mathPad c = .ok p)
    (deep : c.depth = .ok d) (written : write r v c = .text s) :
    s = textOfPieces (padded p (t.pieces (Style.of c) d)) := by
  have around := write_padded plain isContainer pad
  rw [Padded, written] at around
  obtain ⟨inside, inMath, same⟩ := map_eq_ok_iff.1 around.symm
  have shown := shows_value plain v (c.withMode .math) t inside (Context.mode_withMode c .math)
    made (Emission.toExcept_eq_ok_iff.1 inMath)
  have style : Style.of (c.withMode .math) = Style.of c :=
    style_congr fun key noMode _ => OrderedMap.get?_insert_of_ne _ _ noMode
  have depth : depthOf (c.withMode .math) = d := by
    rw [depthOf, depth_withMode, deep]
    rfl
  rw [style, depth] at shown
  rw [textOfPieces_padded, textOfPieces_pieces (style_lined lined), ← shown]
  exact same.symm

/-- A text that ends a line is that of a container. -/
theorem exists_padded (nested : Nested n v) (lined : Lined c unit) (deep : c.depth = .ok d)
    (written : write r v c = .text s) (ends : '\n' ∈ s) :
    ∃ t p, Tree.ofValue? v = some t ∧ mathPad c = .ok p ∧ Settled (Style.of c) d t ∧
      s = textOfPieces (padded p (t.pieces (Style.of c) d)) := by
  obtain ⟨t, made, settled⟩ := exists_settled (style_lined lined) d nested
  have notOneLine : ¬ (write r v c).OneLine := by
    rw [written]
    exact not_not_intro ends
  obtain ⟨p, pad, rule⟩ : ∃ p, mathPad c = .ok p ∧
      (r.resolve v.kind = some (.builtin .vector) ∨ r.resolve v.kind = some (.builtin .matrix)) := by
    cases nested with
    | null => exact absurd (oneLine_write_null plain c) notOneLine
    | bool n b => exact absurd (oneLine_write_bool plain c b) notOneLine
    | int n i => exact absurd (oneLine_write_int plain c i) notOneLine
    | fraction n q => exact absurd (oneLine_write_fraction plain c q) notOneLine
    | @list _ items each =>
      have found : (Value.list items).items? = .ok items := rfl
      rw [write_list plain] at written
      obtain ⟨f, _, _, fits, _⟩ := (writeVector_eq_text_iff found).1 written
      exact ⟨f.pad, fits.pad, .inl (plain.resolve_eq nofun)⟩
    | @tuple _ items each =>
      have found : (Value.tuple items).items? = .ok items := rfl
      rw [write_tuple plain] at written
      obtain ⟨f, _, _, fits, _⟩ := (writeVector_eq_text_iff found).1 written
      exact ⟨f.pad, fits.pad, .inl (plain.resolve_eq nofun)⟩
    | @matrix _ row rows each =>
      have found : rowsOf (.matrix (row :: rows)) = .ok ((row :: rows).map .ok) := rfl
      rw [write_matrix plain] at written
      obtain ⟨f, _, fits, _⟩ := (writeMatrix_eq_text_iff found).1 written
      exact ⟨f.pad, fits.pad, .inr (plain.resolve_eq nofun)⟩
  exact ⟨t, p, made, pad, settled,
    write_container_eq_text plain rule lined made pad deep written⟩

/-- Depth shows as indentation only, and indentation is nesting. -/
theorem indentation_is_nesting (nested : Nested n v) (lined : Lined c unit) :
    (∀ d e spaces, repeated unit (d + e + n : Nat) = .ok spaces →
      write r v (c.withDepth (d + e)) =
        (write r v (c.withDepth d)).indented (indentation unit e)) ∧
    ∀ d s, write r v (c.withDepth d) = .text s → IndentedByNesting v c unit d s := by
  have others (depth : Nat) (key : String) (noDepth : key ≠ "depth") :
      (c.withDepth depth).get? key = c.get? key := OrderedMap.get?_insert_of_ne _ _ noDepth
  have linedAt (depth : Nat) : Lined (c.withDepth depth) unit :=
    lined.congr fun key _ => others depth key
  constructor
  · intro d e spaces enough
    have deeper : Deeper e (c.withDepth d) (c.withDepth (d + e)) d :=
      ⟨Context.depth_withDepth c d, Context.depth_withDepth c (d + e), fun key noDepth => by
        rw [others _ key noDepth, others _ key noDepth]⟩
    exact write_deeper plain nested (linedAt d) deeper enough
  · intro d s written before after cut
    have ends : '\n' ∈ s := by simp [cut]
    obtain ⟨t, p, made, pad, settled, same⟩ := exists_padded plain nested (linedAt d)
      (Context.depth_withDepth c d) written ends
    rw [style_congr fun key _ => others d key] at settled same
    rw [mathPad_congr (others d _ (by decide)) (others d _ (by decide))] at pad
    have stretch := stretch_padded (mathPad_oneLine pad) (settled 0)
    rw [cut] at same
    obtain ⟨qs, rs, pieces, rfl, rfl⟩ := exists_split stretch.breaks same.symm
    obtain ⟨once, k, counted, indented⟩ := stretch.lines qs rs pieces
    rw [Nat.zero_add] at counted
    have spaces : (Style.of c).spaces (d + k) = indentation unit (d + k) := by
      rw [Style.spaces, Style.of, lined.indent]
      rfl
    rw [spaces] at indented
    exact ⟨t, p, qs, rs, k, made, pad, pieces, rfl, rfl, once, counted, indented⟩

end

/-- A matrix in a list, and a tuple in the matrix, behind an empty list. -/
def nest : Value :=
  .list [.list [], .matrix [[.null, .tuple [.fraction (mkRat 1 2)]], [.bool true, .int (-3)]]]

theorem nested_nest : Nested 3 nest := by
  have half : Nested 1 (.tuple [.fraction (mkRat 1 2)]) :=
    .tuple fun x member => List.mem_singleton.1 member ▸ .fraction 0 _
  refine .list fun x member => ?_
  rcases List.mem_pair.1 member with rfl | rfl
  · exact .list nofun
  · refine .matrix fun line listed x inLine => ?_
    rcases List.mem_pair.1 listed with rfl | rfl
    · rcases List.mem_pair.1 inLine with rfl | rfl
      · exact .null 1
      · exact half
    · rcases List.mem_pair.1 inLine with rfl | rfl
      · exact .bool 1 true
      · exact .int 1 (-3)

def tabbed : Context :=
  OrderedMap.ofList [("mode", .mode .markup), ("inline", .bool false), ("indent", .str "\t"),
    ("depth", .int 0), ("delim", .str "\"[\"")]

theorem lined_tabbed : Lined tabbed ['\t'] where
  indent := rfl
  unit := by decide
  parameters key known := by
    by_cases delim : key = "delim"
    · exact ⟨['"', '[', '"'], by rw [delim]; rfl, by decide⟩
    · have absent : (tabbed.get? key).isNone = true := by
        revert key
        decide +kernel
      exact ⟨[], by rw [Context.parameter, Option.isNone_iff_eq_none.1 absent], List.not_mem_nil⟩

theorem indentation_is_nesting_tabbed :
    Registry.builtin.IsBuiltin ∧ Nested 3 nest ∧ Lined tabbed ['\t'] ∧
      write .builtin nest (tabbed.withDepth (2 + 4)) =
        (write .builtin nest (tabbed.withDepth 2)).indented (indentation ['\t'] 4) ∧
      ∃ s, write .builtin nest (tabbed.withDepth 2) = .text s ∧ '\n' ∈ s ∧
        IndentedByNesting nest tabbed ['\t'] 2 s := by
  obtain ⟨deeper, lines⟩ := indentation_is_nesting isBuiltin_builtin nested_nest lined_tabbed
  have enough : repeated ['\t'] (2 + 4 + 3 : Nat) = .ok (indentation ['\t'] 9) := by rfl
  have several : ((write .builtin nest (tabbed.withDepth 2)).fault.isNone &&
      (write .builtin nest (tabbed.withDepth 2)).written.contains '\n') = true := by
    decide +kernel
  obtain ⟨succeeds, breaks⟩ := Bool.and_eq_true_iff.1 several
  have written := Emission.eq_text_of_isNone succeeds
  exact ⟨isBuiltin_builtin, nested_nest, lined_tabbed, deeper 2 4 _ enough, _, written,
    List.contains_iff_mem.1 breaks, lines 2 _ written⟩

end TypstMarkup.Markup
