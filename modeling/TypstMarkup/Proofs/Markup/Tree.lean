import TypstMarkup.Proofs.Markup.Frame
import TypstMarkup.Proofs.Markup.Quoted

/-!
Trees of plain values and their texts in math. What is written for such a value depends on its tree,
on the depth, and on three texts that stay the same for all its parts: the unit of indentation and
the heads of vectors and matrices.
-/
namespace TypstMarkup.Markup

/-! ### Trees -/

/-- What a plain value is made of. Lists and tuples are the same, and a matrix has a row. -/
inductive Tree where
  | null
  | bool (b : Bool)
  | int (n : Int)
  | fraction (q : Rat)
  | str (text : String)
  | vector (items : List Tree)
  | matrix (first : List Tree) (rest : List (List Tree))

namespace Tree

@[elab_as_elim, induction_eliminator]
theorem induction {motive : Tree → Prop} (null : motive .null) (bool : ∀ b, motive (.bool b))
    (int : ∀ n, motive (.int n)) (fraction : ∀ q, motive (.fraction q))
    (str : ∀ text, motive (.str text))
    (vector : ∀ items, (∀ t ∈ items, motive t) → motive (.vector items))
    (matrix : ∀ first rest, (∀ row ∈ first :: rest, ∀ t ∈ row, motive t) →
      motive (.matrix first rest)) (t : Tree) : motive t :=
  Tree.rec (motive_1 := motive) null bool int fraction str vector
    (fun first rest inFirst inRest => matrix first rest (List.forall_mem_cons.2 ⟨inFirst, inRest⟩))
    nofun (fun _ _ first rest => List.forall_mem_cons.2 ⟨first, rest⟩)
    nofun (fun _ _ first rest => List.forall_mem_cons.2 ⟨first, rest⟩) t

mutual

/-- The tree of a value, if it is plain. -/
def ofValue? : Value → Option Tree
  | .null => some .null
  | .bool b => some (.bool b)
  | .int n => some (.int n)
  | .fraction q => some (.fraction q)
  | .str text => some (.str text)
  | .list items | .tuple items => (ofItems? items).map .vector
  | .matrix (row :: rows) => do return .matrix (← ofItems? row) (← ofRows? rows)
  | _ => none

def ofItems? : List Value → Option (List Tree)
  | [] => some []
  | x :: rest => do return (← ofValue? x) :: (← ofItems? rest)

def ofRows? : List (List Value) → Option (List (List Tree))
  | [] => some []
  | row :: rest => do return (← ofItems? row) :: (← ofRows? rest)

end

end Tree

/-! ### Texts -/

/-- What the texts of a value and all its parts have in common. -/
structure Style where
  indent : List Char
  vector : List Char
  matrix : List Char
  vector_head : vector.head? = some 'v'
  matrix_head : matrix.head? = some 'm'

namespace Style

def spaces (σ : Style) (depth : Nat) : List Char :=
  (List.replicate depth σ.indent).flatten

def row (σ : Style) (depth : Nat) (texts : List (List Char)) : List Char :=
  σ.spaces depth ++ [',', ' '].intercalate texts

def closing (σ : Style) (depth : Nat) : List Char :=
  '\n' :: (σ.spaces depth ++ [')'])

end Style

namespace Tree

mutual

/-- The text of a tree at a depth. -/
def text (σ : Style) (depth : Nat) : Tree → List Char
  | .null => ['"', '"']
  | .bool b => '"' :: ((if b then ['t', 'r', 'u', 'e'] else ['f', 'a', 'l', 's', 'e']) ++ ['"'])
  | .int n => (toString n).toList
  | .fraction q =>
    '(' :: ((toString q.num).toList ++ ([' ', '/', ' '] ++ (toString (q.den : Int)).toList) ++
      [')'])
  | .str text =>
    ['"', '\\', '"'] ++ (replaceQuotes (escapedQuote 3) text.toList ++ ['\\', '"', '"'])
  | .vector items => σ.vector ++ (σ.row (depth + 1) (texts σ (depth + 1) items) ++ σ.closing depth)
  | .matrix first rest =>
    σ.matrix ++ ([';', '\n'].intercalate
      (σ.row (depth + 1) (texts σ (depth + 1) first) :: rows σ (depth + 1) rest) ++ σ.closing depth)

def texts (σ : Style) (depth : Nat) : List Tree → List (List Char)
  | [] => []
  | t :: rest => text σ depth t :: texts σ depth rest

def rows (σ : Style) (depth : Nat) : List (List Tree) → List (List Char)
  | [] => []
  | row :: rest => σ.row depth (texts σ depth row) :: rows σ depth rest

end

theorem texts_eq_map (σ : Style) (depth : Nat) (items : List Tree) :
    texts σ depth items = items.map (text σ depth) := by
  induction items with
  | nil => rfl
  | cons t rest ih => rw [texts, ih, List.map_cons]

theorem rows_eq_map (σ : Style) (depth : Nat) (rest : List (List Tree)) :
    rows σ depth rest = rest.map fun row => σ.row depth (texts σ depth row) := by
  induction rest with
  | nil => rfl
  | cons row rest ih => rw [rows, ih, List.map_cons]

theorem text_matrix (σ : Style) (depth : Nat) (first : List Tree) (rest : List (List Tree)) :
    text σ depth (.matrix first rest) =
      σ.matrix ++ ([';', '\n'].intercalate ((first :: rest).map fun row =>
        σ.row (depth + 1) (texts σ (depth + 1) row)) ++ σ.closing depth) := by
  rw [text, rows_eq_map, List.map_cons]

end Tree

/-! ### Contexts -/

theorem repeated_eq_ok {unit spaces : List Char} {count : Int}
    (made : repeated unit count = .ok spaces) :
    spaces = (List.replicate count.toNat unit).flatten := by
  unfold repeated at made
  split at made
  · cases made
  split at made
  · rename_i empty
    cases made
    simp [List.isEmpty_iff.1 empty]
  split at made
  · cases made
  split at made
  · cases made
  · cases made
    rfl

/-- The style of a context. Settings that cannot be read do not matter. -/
def Style.of (c : Context) : Style where
  indent := c.indent.toOption.getD []
  vector := (parameterHead c "vec".toList vectorParameters).written
  matrix := (parameterHead c "mat".toList matrixParameters).written
  vector_head := rfl
  matrix_head := rfl

/-- The depth of a context. A depth that cannot be read does not matter. -/
def depthOf (c : Context) : Nat :=
  c.depth.toOption.getD 0

theorem depthOf_inner (c : Context) (depth : Nat) : depthOf (inner c depth) = depth + 1 := by
  rw [depthOf, inner, Context.depth_withDepth]
  rfl

theorem style_congr {c c' : Context} (others : ∀ key, key ≠ "mode" → key ≠ "depth" →
    c'.get? key = c.get? key) : Style.of c' = Style.of c := by
  have indent : c'.indent = c.indent := Context.indent_congr (others _ (by decide) (by decide))
  have head (function : List Char) {keys : List String} (noMode : "mode" ∉ keys)
      (noDepth : "depth" ∉ keys) :
      parameterHead c' function keys = parameterHead c function keys :=
    parameterHead_congr fun key member => others key (ne_of_mem_of_not_mem member noMode)
      (ne_of_mem_of_not_mem member noDepth)
  simp only [Style.of, indent, head _ (show "mode" ∉ vectorParameters by decide) (by decide),
    head _ (show "mode" ∉ matrixParameters by decide) (by decide)]

theorem style_inner (c : Context) (depth : Nat) : Style.of (inner c depth) = Style.of c :=
  style_congr fun _ => get?_inner_of_ne c depth

/-! ### Frames -/

namespace Frame.Fits

variable {c : Context} {f : Frame} {head : Emission} (fits : f.Fits c head)

include fits

theorem depth_eq : f.depth = depthOf c := by
  rw [depthOf, fits.depth]
  rfl

theorem spaces_eq {spaces : List Char} {depth : Nat}
    (made : repeated f.indent depth = .ok spaces) : spaces = (Style.of c).spaces depth := by
  rw [repeated_eq_ok made, Style.spaces, Style.of, fits.indent]
  rfl

theorem last_eq : f.last = (Style.of c).closing (depthOf c) := by
  obtain ⟨spaces, made, same⟩ := Emission.attempt_eq_text_iff.1 fits.last
  rw [← Emission.text_inj.1 same, fits.spaces_eq made, fits.depth_eq]
  rfl

theorem around_eq (math : c.mode = .ok .math) (body : List Char) :
    f.around body = f.opening ++ (body ++ (Style.of c).closing (depthOf c)) := by
  have pad : f.pad = [] := by
    have padded := fits.pad
    rw [mathPad, math] at padded
    exact (Except.ok.inj padded).symm
  rw [Frame.around, pad, fits.last_eq]
  exact List.append_nil _

end Frame.Fits

/-! ### Texts that are written -/

section

variable {r : Registry} (plain : r.IsBuiltin) {c : Context} {s : List Char}

theorem integerText_eq_ok {n : Int} (made : integerText n = .ok s) : s = (toString n).toList := by
  unfold integerText at made
  split at made
  · cases made
  · cases made
    rfl

/-- In math, the text that a value is written as is the text of its tree, if it has one. -/
def Shows (r : Registry) (v : Value) : Prop :=
  ∀ c t s, c.mode = .ok .math → Tree.ofValue? v = some t → write r v c = .text s →
    s = t.text (Style.of c) (depthOf c)

theorem texts_of_written {items : List Value} {trees : List Tree} {texts : List (List Char)}
    (each : ∀ x ∈ items, Shows r x) (math : c.mode = .ok .math)
    (found : Tree.ofItems? items = some trees)
    (separate : items.map (write r · c) = texts.map Emission.text) :
    texts = Tree.texts (Style.of c) (depthOf c) trees := by
  induction items generalizing trees texts with
  | nil =>
    cases found
    exact List.map_eq_nil_iff.1 separate.symm
  | cons x rest ih =>
    obtain ⟨s, more, rfl, alone, later⟩ := List.map_eq_cons_iff.1 separate.symm
    obtain ⟨t, first, found⟩ := Option.bind_eq_some_iff.1 found
    obtain ⟨others, inRest, found⟩ := Option.bind_eq_some_iff.1 found
    cases found
    rw [Tree.texts, each x List.mem_cons_self c t s math first alone.symm,
      ih (fun x member => each x (List.mem_cons_of_mem _ member)) inRest later.symm]

theorem rows_of_written {rows : List (List Value)} {trees : List (List Tree)}
    {texts : List (List Char)} {spaces? : Except Fault (List Char)}
    (each : ∀ row ∈ rows, ∀ x ∈ row, Shows r x) (math : c.mode = .ok .math)
    (indented : ∀ spaces, spaces? = .ok spaces → spaces = (Style.of c).spaces (depthOf c))
    (found : Tree.ofRows? rows = some trees)
    (separate : rows.map (fun row => writeRow (write r) c spaces? (.ok row)) =
      texts.map Emission.text) :
    texts = Tree.rows (Style.of c) (depthOf c) trees := by
  induction rows generalizing trees texts with
  | nil =>
    cases found
    exact List.map_eq_nil_iff.1 separate.symm
  | cons row rest ih =>
    obtain ⟨s, more, rfl, alone, later⟩ := List.map_eq_cons_iff.1 separate.symm
    obtain ⟨spaces, cells, placed, elements, rfl⟩ := writeRow_eq_text_iff.1 alone.symm
    obtain ⟨first, inRow, found⟩ := Option.bind_eq_some_iff.1 found
    obtain ⟨others, inRest, found⟩ := Option.bind_eq_some_iff.1 found
    cases found
    rw [Tree.rows, Style.row, indented spaces placed,
      texts_of_written (each row List.mem_cons_self) math inRow elements,
      ih (fun row member => each row (List.mem_cons_of_mem _ member)) inRest later.symm]

theorem writeVector_eq_text {v : Value} {items : List Value} {trees : List Tree}
    (each : ∀ x ∈ items, Shows r x) (math : c.mode = .ok .math) (found : v.items? = .ok items)
    (made : Tree.ofItems? items = some trees) (written : writeVector (write r) v c = .text s) :
    s = (Tree.vector trees).text (Style.of c) (depthOf c) := by
  obtain ⟨f, spaces, texts, fits, indented, separate, rfl⟩ :=
    (writeVector_eq_text_iff found).1 written
  have elements := texts_of_written each (mode_inner c f.depth) made separate
  rw [style_inner, depthOf_inner] at elements
  have head := fits.opening
  rw [parameterHead_withMode c .math _ (by decide)] at head
  rw [fits.around_eq math, elements, fits.spaces_eq indented, fits.depth_eq, Tree.text, Style.row]
  simp only [Style.of, head]
  rfl

theorem writeMatrix_eq_text {row : List Value} {rows : List (List Value)} {first : List Tree}
    {rest : List (List Tree)} (each : ∀ line ∈ row :: rows, ∀ x ∈ line, Shows r x)
    (math : c.mode = .ok .math) (inRow : Tree.ofItems? row = some first)
    (inRows : Tree.ofRows? rows = some rest)
    (written : writeMatrix (write r) (.matrix (row :: rows)) c = .text s) :
    s = (Tree.matrix first rest).text (Style.of c) (depthOf c) := by
  obtain ⟨f, texts, fits, separate, rfl⟩ := (writeMatrix_eq_text_iff rfl).1 written
  have made : Tree.ofRows? (row :: rows) = some (first :: rest) := by
    rw [Tree.ofRows?, inRow, inRows]
    rfl
  have indented (spaces : List Char) (placed : repeated f.indent (f.depth + 1) = .ok spaces) :
      spaces = (Style.of (inner c f.depth)).spaces (depthOf (inner c f.depth)) := by
    rw [style_inner, depthOf_inner]
    exact fits.spaces_eq placed
  have lines := rows_of_written each (mode_inner c f.depth) indented made separate
  rw [style_inner, depthOf_inner] at lines
  have head := fits.opening
  rw [parameterHead_inner c f.depth _ (by decide) (by decide)] at head
  rw [fits.around_eq math, lines, fits.depth_eq, Tree.text, Tree.rows]
  simp only [Style.of, head]
  rfl

include plain

theorem write_int_eq_text {n : Int} (written : write r (.int n) c = .text s) :
    s = (toString n).toList := by
  rw [write_int plain, writeInteger] at written
  obtain ⟨_, same, digits⟩ := Emission.attempt_eq_text_iff.1 written
  cases same
  exact integerText_eq_ok (Emission.attemptText_eq_text_iff.1 digits)

theorem write_fraction_eq_text {q : Rat} {σ : Style} {depth : Nat} (math : c.mode = .ok .math)
    (written : write r (.fraction q) c = .text s) : s = (Tree.fraction q).text σ depth := by
  rw [write_fraction plain] at written
  obtain ⟨_, same, written⟩ := Emission.attempt_eq_text_iff.1 written
  rw [math] at same
  cases same
  obtain ⟨_, body, rfl⟩ := Emission.enclose_eq_text_iff.1 written
  obtain ⟨_, _, numerator, divided, rfl⟩ := Emission.append_eq_text_iff.1 body
  obtain ⟨_, denominator, rfl⟩ := Emission.text_append_eq_text_iff.1 divided
  rw [write_int_eq_text plain numerator, write_int_eq_text plain denominator]
  rfl

/-- The text of a plain value in math is found from its tree, whatever the value is itself. -/
theorem shows_value (v : Value) : Shows r v := by
  induction high : v.height using Nat.strongRecOn generalizing v with
  | ind high ih =>
    subst high
    intro c t s math found written
    have item {items : List Value} (low : Value.heightAll items < v.height) :
        ∀ x ∈ items, Shows r x := fun x member =>
      ih _ (Nat.lt_of_le_of_lt (Value.height_le_heightAll member) low) x rfl
    cases v with
    | null =>
      cases found
      rw [write_null plain, writeNull, math] at written
      exact (Emission.text_inj.1 written).symm
    | bool b =>
      cases found
      rw [write_bool plain, writeBool, math] at written
      cases b <;> exact (Emission.text_inj.1 written).symm
    | int n =>
      cases found
      exact write_int_eq_text plain written
    | fraction q =>
      cases found
      exact write_fraction_eq_text plain math written
    | str text =>
      cases found
      rw [write_str plain, quote_eq text.toList math] at written
      exact (Emission.text_inj.1 written).symm
    | list items =>
      obtain ⟨trees, made, rfl⟩ := Option.map_eq_some_iff.1 found
      rw [write_list plain] at written
      exact writeVector_eq_text (item (Nat.lt_succ_self _)) math rfl made written
    | tuple items =>
      obtain ⟨trees, made, rfl⟩ := Option.map_eq_some_iff.1 found
      rw [write_tuple plain] at written
      exact writeVector_eq_text (item (Nat.lt_succ_self _)) math rfl made written
    | matrix rows =>
      cases rows with
      | nil => cases found
      | cons row rows =>
        obtain ⟨first, inRow, found⟩ := Option.bind_eq_some_iff.1 found
        obtain ⟨rest, inRows, same⟩ := Option.bind_eq_some_iff.1 found
        cases same
        rw [write_matrix plain] at written
        refine writeMatrix_eq_text (fun line listed => item ?_) math inRow inRows written
        exact Nat.lt_succ_of_le (Value.heightAll_le_heightRows listed)
    | _ => cases found

end

end TypstMarkup.Markup
