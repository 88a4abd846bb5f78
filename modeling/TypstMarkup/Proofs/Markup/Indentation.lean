import TypstMarkup.Proofs.Markup.Readable

/-!
Indentation. A value nested deeper is written with more indentation after every line break, and
is the same otherwise. This is shown for emissions, so it says of failures too that they are the
same.
-/
namespace TypstMarkup

/-! ### Lines -/

/-- A text with further characters at the start of every line but the first. -/
def indentLines (spaces text : List Char) : List Char :=
  text.flatMap fun c => if c = '\n' then c :: spaces else [c]

theorem indentLines_append (spaces s t : List Char) :
    indentLines spaces (s ++ t) = indentLines spaces s ++ indentLines spaces t :=
  List.flatMap_append

theorem indentLines_of_notMem {text : List Char} (oneLine : '\n' ∉ text) (spaces : List Char) :
    indentLines spaces text = text := by
  induction text with
  | nil => rfl
  | cons c rest ih =>
    simp only [List.mem_cons, not_or] at oneLine
    rw [indentLines, List.flatMap_cons, if_neg (Ne.symm oneLine.1), ← indentLines, ih oneLine.2]
    rfl

theorem indentLines_cons_newline (spaces text : List Char) :
    indentLines spaces ('\n' :: text) = '\n' :: (spaces ++ indentLines spaces text) :=
  rfl

namespace Emission

def indented (spaces : List Char) (e : Emission) : Emission :=
  ⟨indentLines spaces e.written, e.fault⟩

variable {spaces : List Char} {a b : Emission}

@[simp] theorem indented_text (s : List Char) :
    (text s).indented spaces = text (indentLines spaces s) := rfl

@[simp] theorem indented_append (a b : Emission) :
    (a ++ b).indented spaces = a.indented spaces ++ b.indented spaces := by
  obtain ⟨s, fault⟩ := a
  cases fault with
  | some f => rfl
  | none => exact congrArg (Emission.mk · b.fault) (indentLines_append spaces s b.written)

theorem text_append (s t : List Char) (e : Emission) :
    text (s ++ t) ++ e = text s ++ (text t ++ e) :=
  append_assoc (text s) (text t) e

theorem attempt_ok {α : Type} (found : α) (next : α → Emission) :
    attempt (.ok found) next = next found := rfl

theorem join_singleton (delimiter : List Char) (e : Emission) : join delimiter [e] = e := rfl

theorem join_cons_cons (delimiter : List Char) (first second : Emission) (rest : List Emission) :
    join delimiter (first :: second :: rest) =
      first ++ (text delimiter ++ join delimiter (second :: rest)) := rfl

theorem indented_join (delimiter : List Char) (parts : List Emission) :
    (join delimiter parts).indented spaces =
      join (indentLines spaces delimiter) (parts.map (indented spaces)) := by
  induction parts with
  | nil => rfl
  | cons first rest ih =>
    cases rest with
    | nil => rfl
    | cons second rest =>
      rw [join_cons_cons, indented_append, indented_append, indented_text, ih]
      rfl

/-- What stands behind every delimiter may as well stand in front of every part but the first. -/
theorem text_append_join (delimiter s : List Char) {parts : List Emission} (some : parts ≠ []) :
    text s ++ join (delimiter ++ s) parts = join delimiter (parts.map (text s ++ ·)) := by
  induction parts with
  | nil => exact absurd rfl some
  | cons first rest ih =>
    cases rest with
    | nil => rfl
    | cons second rest =>
      rw [join_cons_cons, text_append, ih (List.cons_ne_nil _ _), ← append_assoc]
      rfl

def OneLine (e : Emission) : Prop := '\n' ∉ e.written

theorem OneLine.indented (oneLine : a.OneLine) : a.indented spaces = a := by
  rw [Emission.indented, indentLines_of_notMem oneLine]

theorem oneLine_text {s : List Char} (whole : '\n' ∉ s) : (text s).OneLine := whole

theorem oneLine_fail (f : Fault) : (fail f).OneLine := List.not_mem_nil

theorem OneLine.append (first : a.OneLine) (second : b.OneLine) : (a ++ b).OneLine := by
  obtain ⟨s, fault⟩ := a
  cases fault with
  | some f => exact first
  | none => exact fun member => (List.mem_append.1 member).elim first second

theorem oneLine_attempt {α : Type} {result : Except Fault α} {next : α → Emission}
    (each : ∀ found, result = .ok found → (next found).OneLine) : (attempt result next).OneLine := by
  cases result with
  | ok found => exact each found rfl
  | error f => exact oneLine_fail f

end Emission

namespace Markup

open Emission

/-! ### Nested values -/

/-- Values made of numbers, truth values and nothing by containers that are nested at most so deep. A
matrix has a row. -/
inductive Nested : Nat → Value → Prop
  | null (n : Nat) : Nested n .null
  | bool (n : Nat) (b : Bool) : Nested n (.bool b)
  | int (n : Nat) (i : Int) : Nested n (.int i)
  | fraction (n : Nat) (q : Rat) : Nested n (.fraction q)
  | list {n : Nat} {items : List Value} (each : ∀ x ∈ items, Nested n x) :
    Nested (n + 1) (.list items)
  | tuple {n : Nat} {items : List Value} (each : ∀ x ∈ items, Nested n x) :
    Nested (n + 1) (.tuple items)
  | matrix {n : Nat} {row : List Value} {rows : List (List Value)}
    (each : ∀ line ∈ row :: rows, ∀ x ∈ line, Nested n x) : Nested (n + 1) (.matrix (row :: rows))

/-- A context whose indentation and parameters can be read and are on one line. -/
structure Lined (c : Context) (unit : List Char) : Prop where
  indent : c.indent = .ok unit
  unit : '\n' ∉ unit
  parameters : ∀ key ∈ vectorParameters ++ matrixParameters,
    ∃ value, c.parameter key = .ok value ∧ '\n' ∉ value

theorem mathPad_oneLine {c : Context} {pad : List Char} (found : mathPad c = .ok pad) :
    '\n' ∉ pad := by
  obtain ⟨mode, _, chosen⟩ := bind_eq_ok_iff.1 found
  split at chosen
  · cases chosen
    exact List.not_mem_nil
  · obtain ⟨isInline, _, chosen⟩ := bind_eq_ok_iff.1 chosen
    cases chosen
    cases isInline <;> decide

theorem numeral_oneLine (n : Int) : '\n' ∉ (toString n).toList := fun member =>
  absurd (isNumeric_of_mem member) (by decide)

section

variable {r : Registry} (plain : r.IsBuiltin) (c : Context)

include plain

theorem oneLine_write_int (n : Int) : (write r (.int n) c).OneLine := by
  rw [write_int plain]
  refine oneLine_attempt fun m _ => oneLine_attempt fun digits made => oneLine_text ?_
  rw [integerText_eq_ok made]
  exact numeral_oneLine m

theorem oneLine_write_fraction (q : Rat) : (write r (.fraction q) c).OneLine := by
  rw [write_fraction plain]
  have body (c : Context) : (write r (.int q.num) c ++
      (text [' ', '/', ' '] ++ write r (.int q.den) c)).OneLine :=
    (oneLine_write_int plain c _).append
      ((oneLine_text (by decide)).append (oneLine_write_int plain c _))
  refine oneLine_attempt fun mode _ => ?_
  split
  · refine oneLine_attempt fun pad found => ?_
    have whole := mathPad_oneLine found
    exact (oneLine_text whole).append ((body _).append
      (oneLine_text fun member => whole (List.mem_reverse.1 member)))
  · exact (oneLine_text (by decide)).append ((body c).append (oneLine_text (by decide)))

theorem oneLine_write_bool (b : Bool) : (write r (.bool b) c).OneLine := by
  rw [write_bool plain]
  refine oneLine_attempt fun mode _ => ?_
  cases mode <;> cases b <;> exact oneLine_text (by decide)

theorem oneLine_write_null : (write r .null c).OneLine := by
  rw [write_null plain]
  refine oneLine_attempt fun mode _ => oneLine_text ?_
  cases mode <;> decide

end

/-! ### Frames -/

/-- A unit of indentation a number of times. -/
def indentation (unit : List Char) (depth : Nat) : List Char :=
  (List.replicate depth unit).flatten

theorem indentation_add (unit : List Char) (d e : Nat) :
    indentation unit (d + e) = indentation unit e ++ indentation unit d := by
  rw [indentation, Nat.add_comm, List.replicate_add, List.flatten_append]
  rfl

theorem indentation_oneLine {unit : List Char} (oneLine : '\n' ∉ unit) (depth : Nat) :
    '\n' ∉ indentation unit depth := by
  intro member
  obtain ⟨part, listed, inside⟩ := List.mem_flatten.1 member
  rw [List.eq_of_mem_replicate listed] at inside
  exact oneLine inside

theorem repeated_le {unit spaces : List Char} {d n : Nat} (le : d ≤ n)
    (enough : repeated unit n = .ok spaces) : repeated unit d = .ok (indentation unit d) := by
  unfold repeated at enough ⊢
  have sized : unit.length * (d : Int) ≤ unit.length * (n : Int) :=
    Int.mul_le_mul_of_nonneg_left (Int.ofNat_le.2 le) (Int.natCast_nonneg _)
  have sized' : unit.length * d ≤ unit.length * n := Nat.mul_le_mul_left _ le
  have fits : fitsWord n = true → fitsWord d = true := by
    simp only [fitsWord, Bool.and_eq_true, decide_eq_true_eq]
    omega
  split at enough
  · cases enough
  rename_i fitting
  rw [if_neg (by simpa using fits (by simpa using fitting))]
  split at enough
  · rename_i empty
    rw [if_pos empty, List.isEmpty_iff.1 empty]
    simp [indentation]
  rename_i nonempty
  split at enough
  · cases enough
  split at enough
  · cases enough
  rw [if_neg nonempty, if_neg (by omega), if_neg (by simp only [Int.toNat_natCast] at *; omega)]
  rfl

/-- What a container writes around the emissions of its elements. -/
def framed (c : Context) (head unit : List Char) (depth : Nat) (rows : List (List Emission)) :
    Emission :=
  attempt (mathPad c) fun pad => surround pad
    (text head ++
      (join [';', '\n'] (rows.map fun cells =>
          text (indentation unit (depth + 1)) ++ join [',', ' '] cells) ++
        text ('\n' :: indentation unit depth ++ [')'])))

theorem framed_deeper {c c' : Context} (pad : mathPad c' = mathPad c) {body unit : List Char}
    (oneLine : '\n' ∉ body) (unitLine : '\n' ∉ unit) (d e : Nat) {rows : List (List Emission)}
    (some : rows ≠ []) :
    framed c' (body ++ ['\n']) unit (d + e)
        (rows.map fun cells => cells.map (Emission.indented (indentation unit e))) =
      (framed c (body ++ ['\n']) unit d rows).indented (indentation unit e) := by
  have deeper (k : Nat) : indentation unit (d + e + k) =
      indentation unit e ++ indentation unit (d + k) := by
    rw [Nat.add_right_comm, indentation_add]
  have same (k : Nat) : indentLines (indentation unit e) (indentation unit k) =
      indentation unit k := indentLines_of_notMem (indentation_oneLine unitLine k) _
  -- What a row begins with at the greater depth is inserted behind the break before it.
  have row (cells : List Emission) : text (indentation unit (d + e + 1)) ++
      join [',', ' '] (cells.map (Emission.indented (indentation unit e))) =
        text (indentation unit e) ++ (text (indentation unit (d + 1)) ++
          join [',', ' '] cells).indented (indentation unit e) := by
    rw [deeper, text_append, indented_append, indented_join, indented_text, same]
    rfl
  have rowEnd : indentLines (indentation unit e) [';', '\n'] =
      [';', '\n'] ++ indentation unit e := by simp [indentLines]
  have opening : indentLines (indentation unit e) (body ++ ['\n']) =
      (body ++ ['\n']) ++ indentation unit e := by
    rw [indentLines_append, indentLines_of_notMem oneLine]
    simp [indentLines]
  have last : indentLines (indentation unit e) ('\n' :: indentation unit d ++ [')']) =
      '\n' :: indentation unit (d + e) ++ [')'] := by
    rw [List.cons_append, indentLines_cons_newline, indentLines_append, same,
      indentLines_of_notMem (show '\n' ∉ [')'] by decide), indentation_add, List.cons_append,
      List.append_assoc]
  have lines : text (indentation unit e) ++ (join [';', '\n'] (rows.map fun cells =>
      text (indentation unit (d + 1)) ++ join [',', ' '] cells)).indented (indentation unit e) =
        join [';', '\n'] ((rows.map fun cells =>
          cells.map (Emission.indented (indentation unit e))).map fun cells =>
            text (indentation unit (d + e + 1)) ++ join [',', ' '] cells) := by
    rw [indented_join, rowEnd, text_append_join _ _ (by simpa using some)]
    simp only [List.map_map, Function.comp_def, row]
  rw [framed, framed, pad]
  cases found : mathPad c with
  | error f => rfl
  | ok p =>
    have whole := mathPad_oneLine found
    have reversed : '\n' ∉ p.reverse := fun member => whole (List.mem_reverse.1 member)
    simp only [attempt, surround, enclose, indented_append, indented_text, opening, last,
      indentLines_of_notMem whole, indentLines_of_notMem reversed, ← lines]
    rw [text_append (body ++ ['\n']), append_assoc (text (indentation unit e))]

section

variable {c : Context} {unit : List Char} {w : Writer}

theorem exists_parameters (lined : Lined c unit) {keys : List String}
    (known : ∀ key ∈ keys, key ∈ vectorParameters ++ matrixParameters) :
    ∃ written, '\n' ∉ written ∧ concat (keys.map fun key => attempt (c.parameter key) fun value =>
      text (if value.isEmpty then [] else key.toList ++ ':' :: ' ' :: value ++ [',', ' '])) =
        text written := by
  induction keys with
  | nil => exact ⟨[], List.not_mem_nil, rfl⟩
  | cons key rest ih =>
    obtain ⟨later, laterLine, made⟩ := ih fun k member => known k (List.mem_cons_of_mem _ member)
    have isKnown := known key List.mem_cons_self
    obtain ⟨value, found, valueLine⟩ := lined.parameters key isKnown
    have keyLine : ∀ key ∈ vectorParameters ++ matrixParameters, '\n' ∉ key.toList := by decide
    refine ⟨(if value.isEmpty then [] else key.toList ++ ':' :: ' ' :: value ++ [',', ' ']) ++
      later, ?_, ?_⟩
    · split
      · exact laterLine
      · simp [keyLine key isKnown, valueLine, laterLine]
    · rw [List.map_cons, concat, made, found]
      rfl

/-- The head of a container ends with its first line break. -/
theorem exists_head (lined : Lined c unit) {function : List Char} (oneLine : '\n' ∉ function)
    {keys : List String} (known : ∀ key ∈ keys, key ∈ vectorParameters ++ matrixParameters) :
    ∃ body, '\n' ∉ body ∧ parameterHead c function keys = text (body ++ ['\n']) := by
  obtain ⟨written, whole, made⟩ := exists_parameters lined known
  refine ⟨function ++ ['('] ++ written, by simp [oneLine, whole], ?_⟩
  rw [parameterHead, made, List.append_assoc]
  rfl

theorem writeVector_eq_framed {v : Value} {items : List Value} {head : List Char} {depth : Nat}
    (found : v.items? = .ok items) (deep : c.depth = .ok depth) (indent : c.indent = .ok unit)
    (headed : parameterHead c "vec".toList vectorParameters = text head)
    {spaces : List Char} (enough : repeated unit (depth + 1 : Nat) = .ok spaces) :
    writeVector w v c = framed c head unit depth [items.map fun x => w x (inner c depth)] := by
  have first : repeated unit ((depth : Int) + 1) = .ok (indentation unit (depth + 1)) := by
    rw [← Int.natCast_succ]
    exact repeated_le le_rfl enough
  have last := repeated_le (Nat.le_succ depth) enough
  have sameHead : parameterHead (c.withMode .math) "vec".toList vectorParameters = text head :=
    (parameterHead_withMode c .math _ (by decide)).trans headed
  rw [writeVector, deep, indent, framed, attempt_ok, attempt_ok, first, found, closing, last]
  simp only [attempt_ok, sameHead, List.map_cons, List.map_nil, join_singleton, append_assoc]
  rfl

theorem writeMatrix_eq_framed {rows : List (List Value)} {head : List Char} {depth : Nat}
    (deep : c.depth = .ok depth) (indent : c.indent = .ok unit)
    (headed : parameterHead c "mat".toList matrixParameters = text head)
    {spaces : List Char} (enough : repeated unit (depth + 1 : Nat) = .ok spaces) :
    writeMatrix w (.matrix rows) c =
      framed c head unit depth (rows.map fun row => row.map fun x => w x (inner c depth)) := by
  have first : repeated unit ((depth : Int) + 1) = .ok (indentation unit (depth + 1)) := by
    rw [← Int.natCast_succ]
    exact repeated_le le_rfl enough
  have last := repeated_le (Nat.le_succ depth) enough
  have sameHead : parameterHead ((c.withMode .math).withDepth (depth + 1)) "mat".toList
      matrixParameters = text head :=
    (parameterHead_inner c depth _ (by decide) (by decide)).trans headed
  rw [writeMatrix, deep, indent, framed, attempt_ok, attempt_ok, first, closing, last]
  simp only [attempt_ok, sameHead, rowsOf, Value.core, List.map_map, Function.comp_def, writeRow]
  rfl

end

/-! ### Depth -/

/-- Contexts that differ in depth only, by a certain number. -/
structure Deeper (e : Nat) (c c' : Context) (d : Nat) : Prop where
  deep : c.depth = .ok d
  deeper : c'.depth = .ok (d + e)
  others : ∀ key, key ≠ "depth" → c'.get? key = c.get? key

namespace Deeper

variable {c c' : Context} {d e : Nat} (deeper : Deeper e c c' d)

include deeper

theorem mode : c'.mode = c.mode := Context.mode_congr (deeper.others _ (by decide))

theorem indent : c'.indent = c.indent := Context.indent_congr (deeper.others _ (by decide))

theorem pad : mathPad c' = mathPad c :=
  mathPad_congr (deeper.others _ (by decide)) (deeper.others _ (by decide))

theorem head (function : List Char) {keys : List String} (noDepth : "depth" ∉ keys) :
    parameterHead c' function keys = parameterHead c function keys :=
  parameterHead_congr fun _ member => deeper.others _ (ne_of_mem_of_not_mem member noDepth)

theorem inner : Deeper e (inner c d) (inner c' (d + e)) (d + 1) where
  deep := Context.depth_withDepth _ _
  deeper := by
    rw [Nat.add_right_comm]
    exact Context.depth_withDepth _ _
  others key noDepth := by
    by_cases isMode : key = "mode"
    · rw [isMode, Markup.inner, Markup.inner, Context.withDepth, Context.withDepth,
        OrderedMap.get?_insert_of_ne _ _ (by decide), OrderedMap.get?_insert_of_ne _ _ (by decide),
        Context.withMode, Context.withMode, OrderedMap.get?_insert_self,
        OrderedMap.get?_insert_self]
    · rw [get?_inner_of_ne c' _ isMode noDepth, get?_inner_of_ne c _ isMode noDepth]
      exact deeper.others key noDepth

end Deeper

/-- Neither the mode nor the depth matters for the other settings. -/
theorem Lined.congr {c c' : Context} {unit : List Char} (lined : Lined c unit)
    (others : ∀ key, key ≠ "mode" → key ≠ "depth" → c'.get? key = c.get? key) : Lined c' unit where
  indent := (Context.indent_congr (others _ (by decide) (by decide))).trans lined.indent
  unit := lined.unit
  parameters key known := by
    have setting : ∀ key ∈ vectorParameters ++ matrixParameters, key ≠ "mode" ∧ key ≠ "depth" := by
      decide
    rw [Context.parameter_congr (others key (setting key known).1 (setting key known).2)]
    exact lined.parameters key known

theorem Lined.inner {c : Context} {unit : List Char} (lined : Lined c unit) (depth : Nat) :
    Lined (inner c depth) unit :=
  lined.congr fun _ => get?_inner_of_ne c depth

section

variable {c c' : Context} {unit spaces : List Char} {d e n : Nat} {w : Writer}

theorem writeVector_deeper (deeper : Deeper e c c' d) (lined : Lined c unit)
    (enough : repeated unit (d + e + (n + 1) : Nat) = .ok spaces) {v : Value} {items : List Value}
    (found : v.items? = .ok items)
    (each : ∀ x ∈ items, w x (inner c' (d + e)) =
      (w x (inner c d)).indented (indentation unit e)) :
    writeVector w v c' = (writeVector w v c).indented (indentation unit e) := by
  obtain ⟨body, oneLine, head⟩ := exists_head lined (show '\n' ∉ "vec".toList by decide)
    fun key member => List.mem_append_left matrixParameters member
  have cells : items.map (fun x => w x (inner c' (d + e))) =
      (items.map fun x => w x (inner c d)).map (Emission.indented (indentation unit e)) := by
    rw [List.map_map]
    exact List.map_congr_left each
  rw [writeVector_eq_framed found deeper.deep lined.indent head (repeated_le (by omega) enough),
    writeVector_eq_framed found deeper.deeper (deeper.indent.trans lined.indent)
      ((deeper.head _ (by decide)).trans head) (repeated_le (by omega) enough), cells,
    ← framed_deeper deeper.pad oneLine lined.unit d e (List.cons_ne_nil _ _)]
  rfl

theorem writeMatrix_deeper (deeper : Deeper e c c' d) (lined : Lined c unit)
    (enough : repeated unit (d + e + (n + 1) : Nat) = .ok spaces) {row : List Value}
    {rows : List (List Value)}
    (each : ∀ line ∈ row :: rows, ∀ x ∈ line, w x (inner c' (d + e)) =
      (w x (inner c d)).indented (indentation unit e)) :
    writeMatrix w (.matrix (row :: rows)) c' =
      (writeMatrix w (.matrix (row :: rows)) c).indented (indentation unit e) := by
  obtain ⟨body, oneLine, head⟩ := exists_head lined (show '\n' ∉ "mat".toList by decide)
    fun key member => List.mem_append_right vectorParameters member
  have cells : ((row :: rows).map fun line => line.map fun x => w x (inner c' (d + e))) =
      ((row :: rows).map fun line => line.map fun x => w x (inner c d)).map fun line =>
        line.map (Emission.indented (indentation unit e)) := by
    rw [List.map_map]
    refine List.map_congr_left fun line listed => ?_
    rw [Function.comp_apply, List.map_map]
    exact List.map_congr_left (each line listed)
  rw [writeMatrix_eq_framed deeper.deep lined.indent head (repeated_le (by omega) enough),
    writeMatrix_eq_framed deeper.deeper (deeper.indent.trans lined.indent)
      ((deeper.head _ (by decide)).trans head) (repeated_le (by omega) enough), cells]
  exact framed_deeper deeper.pad oneLine lined.unit d e (List.cons_ne_nil _ _)

end

/-- Nothing but indentation depends on the depth. -/
theorem write_deeper {r : Registry} (plain : r.IsBuiltin) {n : Nat} {v : Value}
    (nested : Nested n v) {c c' : Context} {unit spaces : List Char} {d e : Nat}
    (lined : Lined c unit) (deeper : Deeper e c c' d)
    (enough : repeated unit (d + e + n : Nat) = .ok spaces) :
    write r v c' = (write r v c).indented (indentation unit e) := by
  -- Elements are written a level deeper in both contexts, so these differ by as much as before.
  induction nested generalizing c c' d spaces with
  | null n =>
    rw [(oneLine_write_null plain c).indented, write_null plain, write_null plain, writeNull,
      deeper.mode, writeNull]
  | bool n b =>
    rw [(oneLine_write_bool plain c b).indented, write_bool plain, write_bool plain, writeBool,
      deeper.mode, writeBool]
  | int n i =>
    rw [(oneLine_write_int plain c i).indented, write_int plain, write_int plain]
  | fraction n q =>
    rw [(oneLine_write_fraction plain c q).indented, write_fraction plain, write_fraction plain,
      writeFraction, deeper.mode, deeper.pad, writeFraction]
    simp only [write_int plain]
  | list each ih =>
    rw [write_list plain, write_list plain]
    refine writeVector_deeper deeper lined enough rfl fun x member => ?_
    exact ih x member (lined.inner d) deeper.inner (repeated_le (by omega) enough)
  | tuple each ih =>
    rw [write_tuple plain, write_tuple plain]
    refine writeVector_deeper deeper lined enough rfl fun x member => ?_
    exact ih x member (lined.inner d) deeper.inner (repeated_le (by omega) enough)
  | matrix each ih =>
    rw [write_matrix plain, write_matrix plain]
    refine writeMatrix_deeper deeper lined enough fun line listed x member => ?_
    exact ih line listed x member (lined.inner d) deeper.inner (repeated_le (by omega) enough)

end Markup

end TypstMarkup
