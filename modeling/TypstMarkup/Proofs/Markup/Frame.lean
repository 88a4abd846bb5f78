import TypstMarkup.Proofs.Markup.Budget
import TypstMarkup.Proofs.Markup.Emission

/-!
Texts of containers. A container is written exactly if its settings can be read and all its elements
can be written, and then its text is a frame around the texts of the elements.
-/
namespace TypstMarkup.Markup

open Emission

variable {w : Writer} {v : Value} {c : Context} {t : List Char}

/-- The context of the elements of a container. -/
def inner (c : Context) (depth : Nat) : Context :=
  (c.withMode .math).withDepth (depth + 1)

theorem parameterHead_withMode (c : Context) (m : Mode) (function : List Char) {keys : List String}
    (noMode : "mode" ∉ keys) :
    parameterHead (c.withMode m) function keys = parameterHead c function keys :=
  parameterHead_congr fun _ member =>
    OrderedMap.get?_insert_of_ne _ _ (ne_of_mem_of_not_mem member noMode)

theorem get?_inner_of_ne (c : Context) (depth : Nat) {key : String} (noMode : key ≠ "mode")
    (noDepth : key ≠ "depth") : (inner c depth).get? key = c.get? key := by
  rw [inner, Context.withDepth, OrderedMap.get?_insert_of_ne _ _ noDepth, Context.withMode,
    OrderedMap.get?_insert_of_ne _ _ noMode]

theorem parameterHead_inner (c : Context) (depth : Nat) (function : List Char) {keys : List String}
    (noMode : "mode" ∉ keys) (noDepth : "depth" ∉ keys) :
    parameterHead (inner c depth) function keys = parameterHead c function keys :=
  parameterHead_congr fun _ member => get?_inner_of_ne c depth
    (ne_of_mem_of_not_mem member noMode) (ne_of_mem_of_not_mem member noDepth)

theorem mode_inner (c : Context) (depth : Nat) : (inner c depth).mode = .ok .math := by
  rw [inner, Context.mode_withDepth, Context.mode_withMode]

/-- What stands around the elements of a container, all but their indentation. -/
structure Frame where
  depth : Nat
  indent : List Char
  pad : List Char
  opening : List Char
  last : List Char

/-- The frame that a context gives a container with a certain head. -/
structure Frame.Fits (f : Frame) (c : Context) (head : Emission) : Prop where
  depth : c.depth = .ok f.depth
  indent : c.indent = .ok f.indent
  pad : mathPad c = .ok f.pad
  opening : head = .text f.opening
  last : closing f.indent f.depth = .text f.last

def Frame.around (f : Frame) (body : List Char) : List Char :=
  f.pad ++ (f.opening ++ (body ++ f.last)) ++ f.pad.reverse

/-! ### Elements -/

theorem writeVector_eq_text_iff {items : List Value} (found : v.items? = .ok items) :
    writeVector w v c = .text t ↔
      ∃ (f : Frame) (spaces : List Char) (texts : List (List Char)),
        f.Fits c (parameterHead (c.withMode .math) "vec".toList vectorParameters) ∧
        repeated f.indent (f.depth + 1) = .ok spaces ∧
        items.map (fun x => w x (inner c f.depth)) = texts.map Emission.text ∧
        t = f.around (spaces ++ [',', ' '].intercalate texts) := by
  unfold writeVector
  constructor
  · intro written
    obtain ⟨depth, deep, underDepth⟩ := attempt_eq_text_iff.1 written
    obtain ⟨indent, unit, underIndent⟩ := attempt_eq_text_iff.1 underDepth
    obtain ⟨pad, padded, surrounded⟩ := attempt_eq_text_iff.1 underIndent
    obtain ⟨_, headed, same⟩ := surround_eq_text_iff.1 surrounded
    obtain ⟨opening, _, opened, body, rfl⟩ := append_eq_text_iff.1 headed
    obtain ⟨spaces, indented, placed⟩ := attempt_eq_text_iff.1 body
    obtain ⟨_, ended, rfl⟩ := text_append_eq_text_iff.1 placed
    obtain ⟨_, last, elements, closed, rfl⟩ := append_eq_text_iff.1 ended
    rw [found] at elements
    obtain ⟨texts, separate, rfl⟩ := join_eq_text_iff.1 elements
    refine ⟨⟨depth, indent, pad, opening, last⟩, spaces, texts,
      ⟨deep, unit, padded, opened, closed⟩, indented, separate, ?_⟩
    simp [same, Frame.around]
  · rintro ⟨f, spaces, texts, fits, indented, written, rfl⟩
    have elements : writeElements w (inner c f.depth) items = _ :=
      join_eq_text_iff.2 ⟨texts, written, rfl⟩
    refine attempt_eq_text_iff.2 ⟨_, fits.depth, attempt_eq_text_iff.2 ⟨_, fits.indent,
      attempt_eq_text_iff.2 ⟨_, fits.pad, surround_eq_text_iff.2 ⟨_, ?_, rfl⟩⟩⟩⟩
    refine append_eq_text_iff.2 ⟨_, _, fits.opening, ?_, rfl⟩
    refine attempt_eq_text_iff.2 ⟨spaces, indented, text_append_eq_text_iff.2
      ⟨[',', ' '].intercalate texts ++ f.last, ?_, List.append_assoc _ _ _⟩⟩
    rw [found]
    exact append_eq_text_iff.2 ⟨_, _, elements, fits.last, rfl⟩

theorem writeRow_eq_text_iff {spaces? : Except Fault (List Char)} {row : List Value} :
    writeRow w c spaces? (.ok row) = .text t ↔
      ∃ spaces texts, spaces? = .ok spaces ∧ row.map (w · c) = texts.map Emission.text ∧
        t = spaces ++ [',', ' '].intercalate texts := by
  unfold writeRow
  constructor
  · intro written
    obtain ⟨spaces, indented, placed⟩ := attempt_eq_text_iff.1 written
    obtain ⟨_, elements, rfl⟩ := text_append_eq_text_iff.1 placed
    obtain ⟨texts, separate, rfl⟩ := join_eq_text_iff.1 elements
    exact ⟨spaces, texts, indented, separate, rfl⟩
  · rintro ⟨spaces, texts, indented, written, rfl⟩
    refine attempt_eq_text_iff.2 ⟨spaces, indented, text_append_eq_text_iff.2 ⟨_, ?_, rfl⟩⟩
    exact join_eq_text_iff.2 ⟨texts, written, rfl⟩

theorem writeMatrix_eq_text_iff {rows : List (List Value)} (found : rowsOf v = .ok (rows.map .ok)) :
    writeMatrix w v c = .text t ↔
      ∃ (f : Frame) (texts : List (List Char)),
        f.Fits c (parameterHead (inner c f.depth) "mat".toList matrixParameters) ∧
        rows.map (fun row => writeRow w (inner c f.depth) (repeated f.indent (f.depth + 1))
          (.ok row)) = texts.map Emission.text ∧
        t = f.around ([';', '\n'].intercalate texts) := by
  unfold writeMatrix
  constructor
  · intro written
    obtain ⟨depth, deep, underDepth⟩ := attempt_eq_text_iff.1 written
    obtain ⟨indent, unit, underIndent⟩ := attempt_eq_text_iff.1 underDepth
    obtain ⟨pad, padded, surrounded⟩ := attempt_eq_text_iff.1 underIndent
    obtain ⟨_, headed, same⟩ := surround_eq_text_iff.1 surrounded
    obtain ⟨opening, _, opened, body, rfl⟩ := append_eq_text_iff.1 headed
    obtain ⟨_, last, lines, closed, rfl⟩ := append_eq_text_iff.1 body
    rw [found] at lines
    obtain ⟨texts, separate, rfl⟩ := join_eq_text_iff.1 lines
    simp only [List.map_map, Function.comp_def] at separate
    exact ⟨⟨depth, indent, pad, opening, last⟩, texts, ⟨deep, unit, padded, opened, closed⟩,
      separate, same⟩
  · rintro ⟨f, texts, fits, written, rfl⟩
    refine attempt_eq_text_iff.2 ⟨_, fits.depth, attempt_eq_text_iff.2 ⟨_, fits.indent,
      attempt_eq_text_iff.2 ⟨_, fits.pad, surround_eq_text_iff.2 ⟨_, ?_, rfl⟩⟩⟩⟩
    refine append_eq_text_iff.2 ⟨_, _, fits.opening, ?_, rfl⟩
    refine append_eq_text_iff.2 ⟨_, _, ?_, fits.last, rfl⟩
    rw [found]
    refine join_eq_text_iff.2 ⟨texts, ?_, rfl⟩
    simp only [List.map_map, Function.comp_def]
    exact written

/-! ### Containers under the built-in rules -/

section

variable {r : Registry} (plain : r.IsBuiltin)

include plain

theorem write_builtin (v : Value) (rule : BuiltinRule) (c : Context)
    (home : ∀ home name, v.kind ≠ .declared home name)
    (found : Registry.builtin.resolve v.kind = some (.builtin rule))
    (bare : Registry.builtin.kindDefaults v = OrderedMap.empty) :
    write r v c = rule.apply (write r) v c := by
  rw [← plain.resolve_eq home] at found
  rw [write_eq plain, asRegistered_of_resolve found]
  simp only [Emission.attempt, found, plain.kindDefaults_eq home, bare]
  refine rule.apply_congr (fun key => ?_) fun x c d _ alike => write_alike r x alike
  rw [OrderedMap.get?_fill, OrderedMap.get?_empty, Option.or_none]

theorem write_null (c : Context) : write r .null c = writeNull c :=
  write_builtin plain .null .null c nofun rfl rfl

theorem write_bool (b : Bool) (c : Context) : write r (.bool b) c = writeBool (.bool b) c :=
  write_builtin plain (.bool b) .bool c nofun rfl rfl

theorem write_int (n : Int) (c : Context) : write r (.int n) c = writeInteger (.int n) :=
  write_builtin plain (.int n) .integer c nofun rfl rfl

theorem write_fraction (q : Rat) (c : Context) :
    write r (.fraction q) c = writeFraction (write r) (.fraction q) c :=
  write_builtin plain (.fraction q) .fraction c nofun rfl rfl

theorem write_str (text : String) (c : Context) :
    write r (.str text) c = quote (.ok text.toList) c :=
  write_builtin plain (.str text) .string c nofun rfl rfl

theorem write_list (items : List Value) (c : Context) :
    write r (.list items) c = writeVector (write r) (.list items) c :=
  write_builtin plain (.list items) .vector c nofun rfl rfl

theorem write_tuple (items : List Value) (c : Context) :
    write r (.tuple items) c = writeVector (write r) (.tuple items) c :=
  write_builtin plain (.tuple items) .vector c nofun rfl rfl

theorem write_matrix (rows : List (List Value)) (c : Context) :
    write r (.matrix rows) c = writeMatrix (write r) (.matrix rows) c :=
  write_builtin plain (.matrix rows) .matrix c nofun rfl rfl

theorem write_verbatim (text : String) (c : Context) :
    write r (.verbatim text) c = .text text.toList :=
  write_builtin plain (.verbatim text) .verbatim c nofun rfl rfl

end

end TypstMarkup.Markup
