import TypstMarkup.Proofs.Markup.Frame

/-!
Failures of the built-in rules. A rule reads the settings it needs before it writes anything. What
it fails with later is an obstacle in the value or in a setting that it uses while it writes, or
comes from a number or an element that it writes.
-/
namespace TypstMarkup

/-! ### Failures of emissions -/

namespace Emission

variable {U P : Fault → Prop} {a b : Emission}

/-- Every failure is one of certain ones. -/
def FailsOnly (P : Fault → Prop) (e : Emission) : Prop :=
  ∀ f, e.fault = some f → P f

/-- Every failure is one of certain ones, or else comes before anything is written. -/
def Guarded (U P : Fault → Prop) (e : Emission) : Prop :=
  ∀ f, e.fault = some f → P f ∨ U f ∧ e.written = []

theorem fault_append (a b : Emission) : (a ++ b).fault = a.fault.or b.fault := by
  obtain ⟨s, fault⟩ := a
  cases fault <;> rfl

theorem failsOnly_text (s : List Char) : (text s).FailsOnly P := by
  intro f failed
  cases failed

theorem failsOnly_fail {f : Fault} (allowed : P f) : (fail f).FailsOnly P := by
  intro g failed
  cases failed
  exact allowed

theorem FailsOnly.append (first : a.FailsOnly P) (second : b.FailsOnly P) :
    (a ++ b).FailsOnly P := by
  intro f failed
  rw [fault_append, Option.or_eq_some_iff] at failed
  rcases failed with failed | ⟨-, failed⟩
  · exact first f failed
  · exact second f failed

theorem failsOnly_attempt {α : Type} {result : Except Fault α} {next : α → Emission}
    (error : ∀ f, result = .error f → P f)
    (each : ∀ found, result = .ok found → (next found).FailsOnly P) :
    (attempt result next).FailsOnly P := by
  cases result with
  | ok found => exact each found rfl
  | error f => exact failsOnly_fail (error f rfl)

theorem failsOnly_attemptText {result : Except Fault (List Char)}
    (error : ∀ f, result = .error f → P f) : (attemptText result).FailsOnly P :=
  failsOnly_attempt error fun found _ => failsOnly_text found

theorem failsOnly_concat {parts : List Emission} (each : ∀ e ∈ parts, e.FailsOnly P) :
    (concat parts).FailsOnly P := by
  induction parts with
  | nil => exact failsOnly_text []
  | cons e rest ih =>
    have later := ih fun e member => each e (List.mem_cons_of_mem _ member)
    exact (each e List.mem_cons_self).append later

theorem failsOnly_join {delimiter : List Char} {parts : List Emission}
    (each : ∀ e ∈ parts, e.FailsOnly P) : (join delimiter parts).FailsOnly P := by
  induction parts with
  | nil => exact failsOnly_text []
  | cons first rest ih =>
    have alone := each first List.mem_cons_self
    have later := ih fun e member => each e (List.mem_cons_of_mem _ member)
    cases rest with
    | nil => exact alone
    | cons second rest => exact alone.append ((failsOnly_text delimiter).append later)

theorem FailsOnly.enclose (body : b.FailsOnly P) (left right : List Char) :
    (enclose left b right).FailsOnly P :=
  (failsOnly_text left).append (body.append (failsOnly_text right))

theorem FailsOnly.guarded (only : a.FailsOnly P) : a.Guarded U P := by
  intro f failed
  exact .inl (only f failed)

theorem guarded_attempt {α : Type} {result : Except Fault α} {next : α → Emission}
    (error : ∀ f, result = .error f → P f ∨ U f)
    (each : ∀ found, result = .ok found → (next found).Guarded U P) :
    (attempt result next).Guarded U P := by
  cases result with
  | ok found => exact each found rfl
  | error f =>
    intro g failed
    cases failed
    exact (error f rfl).imp_right fun unread => ⟨unread, rfl⟩

theorem Guarded.append (first : a.Guarded U P) (second : b.FailsOnly P) :
    (a ++ b).Guarded U P := by
  obtain ⟨s, fault⟩ := a
  cases fault with
  | some f => exact first
  | none => exact ((failsOnly_text s).append second).guarded

theorem Guarded.failsOnly (guarded : a.Guarded U P) (start : ∀ f, U f → P f) :
    a.FailsOnly P := by
  intro f failed
  rcases guarded f failed with allowed | ⟨unread, -⟩
  · exact allowed
  · exact start f unread

end Emission

namespace Markup

open Emission

/-! ### What a rule reads, writes further and stumbles over -/

/-- A failure to read one of the settings that a rule reads before it writes. -/
inductive Unread (rule : BuiltinRule) (c : Context) (f : Fault) : Prop
  | mode (failed : c.mode = .error f)
  | pad (failed : mathPad c = .error f)
  | indent (failed : c.indent = .error f)
  | depth (failed : c.depth = .error f)
  | backticks (raw : rule = .raw) (failed : backticks c = .error f)
  | block (raw : rule = .raw) (failed : isBlock c = .error f)

/-- The integers whose digits a rule writes. -/
def numerals (rule : BuiltinRule) (v : Value) : List Int :=
  match rule with
  | .integer => v.toInteger?.toOption.toList
  | .fraction =>
    match ratio? v with
    | some (numerator, denominator) => [numerator, denominator]
    | none => []
  | .range =>
    match v.core with
    | .range r => [r.start, writtenStop r, r.step]
    | _ => []
  | _ => []

/-- The elements that a rule writes. -/
def elements (rule : BuiltinRule) (v : Value) : List Value :=
  match rule with
  | .vector => v.items?.toOption.getD []
  | .matrix => (rowsOf v).toOption.getD [] |>.flatMap fun row => row.toOption.getD []
  | _ => []

theorem mem_elements {rule : BuiltinRule} {v x : Value} (member : x ∈ elements rule v) :
    Writes rule v x := by
  cases rule with
  | vector =>
    unfold elements at member
    cases found : v.items? with
    | error f => simp [found, Except.toOption] at member
    | ok items =>
      rw [found] at member
      exact .item found member
  | matrix =>
    unfold elements at member
    obtain ⟨row, listed, inside⟩ := List.mem_flatMap.1 member
    cases found : rowsOf v with
    | error f => simp [found, Except.toOption] at listed
    | ok rows =>
      rw [found] at listed
      cases row with
      | error f => simp [Except.toOption] at inside
      | ok row => exact .cell found listed inside
  | _ => cases member

/-- A value does not have what a rule needs of it. -/
inductive Unfit (v : Value) (f : Fault) : BuiltinRule → Prop
  | notInteger (failed : v.toInteger? = .error f) : Unfit v f .integer
  | notFloating (failed : v.toFloating? = .error f) : Unfit v f .float
  | unshown (failed : v.plainText? = .error f) : Unfit v f .decimal
  | noRatio (absent : ratio? v = none) (failed : f = lacks v "numerator") : Unfit v f .fraction
  | noParts (failed : complexParts v = .error f) : Unfit v f .complex
  | notReplaced (failed : textOf v = .error f) : Unfit v f .char
  | notPlain (failed : plainOf v = .error f) : Unfit v f .char
  | notQuoted (failed : textOf v = .error f) : Unfit v f .string
  | noPattern (absent : ∀ p, v.core ≠ .pattern p) (failed : f = lacks v "pattern") :
    Unfit v f .pattern
  | noRange (absent : ∀ p, v.core ≠ .range p) (failed : f = lacks v "start") : Unfit v f .range
  | noText (absent : ∀ text language, v.core ≠ .verbatim text ∧ v.core ≠ .raw text language)
    (failed : f = lacks v "text") : Unfit v f .verbatim
  | noSource (failed : plainOf v = .error f) : Unfit v f .markup
  | noLanguage (absent : ∀ text language, v.core ≠ .raw text language)
    (failed : f = lacks v "lang") : Unfit v f .raw
  | noItems (failed : v.items? = .error f) : Unfit v f .vector
  | noRows (failed : rowsOf v = .error f) : Unfit v f .matrix
  | noRow {rows : List (Except Fault (List Value))} (found : rowsOf v = .ok rows)
    (failed : .error f ∈ rows) : Unfit v f .matrix

/-- A limit that a rule runs into at a value: an integer with too many digits, a range or a
repetition that is too long. -/
inductive Limit (v : Value) (c : Context) (f : Fault) : BuiltinRule → Prop
  | digits {rule : BuiltinRule} {n : Int} (written : n ∈ numerals rule v)
    (failed : integerText n = .error f) : Limit v c f rule
  | length {p : Progression} (same : v.core = .range p) (long : wordLimit ≤ p.length)
    (failed : f = .notANativeSize) : Limit v c f .range
  | fence {count : Int} (found : backticks c = .ok count)
    (failed : repeated ['\x60'] count = .error f) : Limit v c f .raw
  | indentation {rule : BuiltinRule} {depth levels : Nat} {unit : List Char}
    (container : rule ∈ [.vector, .matrix]) (deep : c.depth = .ok depth)
    (indent : c.indent = .ok unit) (one : levels ≤ 1)
    (failed : repeated unit (depth + levels : Nat) = .error f) : Limit v c f rule

/-- A failure of a rule by itself, once its settings are read. -/
inductive Obstacle (v : Value) (c : Context) (f : Fault) (rule : BuiltinRule) : Prop
  | unfit (unfit : Unfit v f rule)
  | limit (limit : Limit v c f rule)
  | bytes {source : List UInt8} {flags : PatternFlags} (pattern : rule = .pattern)
    (same : v.core = .pattern (.bytes source flags)) (failed : f = .unsupportedKind .bytes)
  | parameter {key : String} (container : rule ∈ [.vector, .matrix])
    (known : key ∈ vectorParameters ++ matrixParameters) (failed : c.parameter key = .error f)

/-! ### Elements -/

section

variable {r : Registry}

/-- A value is written as what it stands for, by the rule found for that. -/
structure Applies (r : Registry) (v shown : Value) (rule : BuiltinRule) : Prop where
  registered : asRegistered r v = .ok shown
  found : r.resolve shown.kind = some (.builtin rule)

/-- The settings that a value is written under: those of the context, then the defaults of its
kind. -/
def settingsFor (r : Registry) (v : Value) (c : Context) : Context :=
  c.fill (r.kindDefaults v)

theorem applies_of_resolve {v : Value} {rule : BuiltinRule}
    (found : r.resolve v.kind = some (.builtin rule)) : Applies r v v rule :=
  ⟨asRegistered_of_resolve found, found⟩

theorem Applies.unique {v shown shown' : Value} {rule rule' : BuiltinRule}
    (applies : Applies r v shown rule) (applies' : Applies r v shown' rule') :
    shown' = shown ∧ rule' = rule := by
  obtain ⟨registered, found⟩ := applies
  obtain ⟨registered', found'⟩ := applies'
  rw [registered] at registered'
  cases registered'
  rw [found] at found'
  cases found'
  exact ⟨rfl, rfl⟩

variable (plain : r.IsBuiltin)

include plain

theorem elements_leaf {v shown : Value} {rule : BuiltinRule} (leaf : Value.IsLeaf v)
    (applies : Applies r v shown rule) : elements rule shown = [] := by
  cases leaf with
  | int n =>
    have home : r.resolve (Value.int n).kind = some (.builtin .integer) := plain.resolve_eq nofun
    obtain ⟨rfl, rfl⟩ := (applies_of_resolve home).unique applies
    rfl
  | str text =>
    have home : r.resolve (Value.str text).kind = some (.builtin .string) := plain.resolve_eq nofun
    obtain ⟨rfl, rfl⟩ := (applies_of_resolve home).unique applies
    rfl
  | mode m =>
    have absent : r.resolve (Value.mode m).kind = none := plain.resolve_eq nofun
    have registered := applies.registered
    simp [asRegistered, absent, Value.core] at registered

/-- What holds of a value if it holds of its elements holds of all values. -/
@[elab_as_elim]
theorem element_induction {motive : Value → Prop}
    (step : ∀ v, (∀ shown rule x, Applies r v shown rule → x ∈ elements rule shown → motive x) →
      motive v) (v : Value) : motive v := by
  have leaf (x : Value) (leaf : Value.IsLeaf x) : motive x := by
    apply step
    intro shown rule y applies member
    rw [elements_leaf plain leaf applies] at member
    cases member
  induction high : v.height using Nat.strongRecOn generalizing v with
  | ind high ih =>
    subst high
    apply step
    intro shown rule x applies member
    have low := height_asRegistered applies.registered
    rcases lower_of_writes plain (mem_elements member) applies.found with isLeaf | lower
    · exact leaf x isLeaf
    · exact ih x.height (Nat.lt_of_lt_of_le lower low) x rfl

end

/-! ### Filled contexts -/

section

variable {c : Context} (defaults : Context)

theorem get?_fill_of_found {key : String} (present : c.found key ≠ .null) :
    (c.fill defaults).get? key = c.get? key := by
  rw [OrderedMap.get?_fill]
  cases found : c.get? key with
  | some v => rw [Option.some_or]
  | none =>
    rw [Context.found, found, Option.getD_none] at present
    exact absurd rfl present

theorem mode_fill {m : Mode} (read : c.mode = .ok m) : Context.mode (c.fill defaults) = .ok m := by
  rw [Context.mode_congr (get?_fill_of_found defaults ?_)]
  · exact read
  · intro null
    unfold Context.mode at read
    split at read
    · rename_i m found
      rw [Context.found, found] at null
      cases null
    · cases read

theorem inline_fill {b : Bool} (read : c.inline = .ok b) :
    Context.inline (c.fill defaults) = .ok b := by
  rw [Context.inline_congr (get?_fill_of_found defaults ?_)]
  · exact read
  · intro null
    unfold Context.inline at read
    split at read
    · rename_i b found
      rw [Context.found, found] at null
      cases null
    · cases read

theorem depth_fill {depth : Nat} (read : c.depth = .ok depth) :
    Context.depth (c.fill defaults) = .ok depth := by
  rw [Context.depth_congr (get?_fill_of_found defaults ?_)]
  · exact read
  · intro null
    rw [Context.depth, null] at read
    cases read

theorem indent_fill {unit : List Char} (read : c.indent = .ok unit) :
    Context.indent (c.fill defaults) = .ok unit := by
  rw [Context.indent_congr (get?_fill_of_found defaults ?_)]
  · exact read
  · intro null
    rw [Context.indent, null] at read
    cases read

end

/-! ### Settings that are refused -/

/-- The failure of a setting whose value is not accepted. -/
def Refuses (c : Context) (key : String) (f : Fault) : Prop :=
  ∃ expected, f = .ofSetting key (c.found key) expected

section

variable {rule : BuiltinRule} {c : Context} {f : Fault}

theorem refuses_mode (failed : c.mode = .error f) : Refuses c "mode" f := by
  unfold Context.mode at failed
  split at failed
  · cases failed
  · cases failed
    exact ⟨_, rfl⟩

theorem refuses_inline (failed : c.inline = .error f) : Refuses c "inline" f := by
  unfold Context.inline at failed
  split at failed
  · cases failed
  · cases failed
    exact ⟨_, rfl⟩

theorem refuses_indent (failed : c.indent = .error f) : Refuses c "indent" f := by
  unfold Context.indent at failed
  split at failed
  · cases failed
  · cases failed
    exact ⟨_, rfl⟩

theorem refuses_depth (failed : c.depth = .error f) : Refuses c "depth" f := by
  unfold Context.depth at failed
  split at failed
  · split at failed
    · cases failed
    · cases failed
      exact ⟨_, rfl⟩
  · cases failed
    exact ⟨_, rfl⟩

theorem refuses_backticks (failed : backticks c = .error f) : Refuses c "backticks" f := by
  unfold backticks at failed
  split at failed
  · split at failed
    · cases failed
    · cases failed
      exact ⟨_, rfl⟩
  · cases failed
    exact ⟨_, rfl⟩

theorem refuses_block (failed : isBlock c = .error f) : Refuses c "block" f := by
  unfold isBlock at failed
  split at failed
  · cases failed
  · cases failed
    exact ⟨_, rfl⟩

theorem refuses_parameter {key : String} (failed : c.parameter key = .error f) :
    Refuses c key f := by
  unfold Context.parameter at failed
  split at failed
  · cases failed
  · rename_i v present
    split at failed
    · cases failed
    · cases failed
      exact ⟨_, by rw [Context.found, present, Option.getD_some]⟩

/-- The delimiter of math is refused with the mode, or outside math with whether math is inline. -/
theorem refuses_mathPad (failed : mathPad c = .error f) :
    Refuses c "mode" f ∨ c.mode ≠ .ok .math ∧ Refuses c "inline" f := by
  rcases bind_eq_error_iff.1 failed with failed | ⟨mode, found, failed⟩
  · exact .inl (refuses_mode failed)
  · split at failed
    · cases failed
    · rename_i other
      rcases bind_eq_error_iff.1 failed with failed | ⟨_, _, failed⟩
      · refine .inr ⟨?_, refuses_inline failed⟩
        rw [found]
        simpa using other
      · cases failed

theorem Unread.refuses (unread : Unread rule c f) :
    ∃ key ∈ ["mode", "inline", "indent", "depth", "backticks", "block"], Refuses c key f := by
  cases unread with
  | mode failed => exact ⟨_, by decide, refuses_mode failed⟩
  | pad failed =>
    rcases refuses_mathPad failed with refused | ⟨-, refused⟩
    · exact ⟨_, by decide, refused⟩
    · exact ⟨_, by decide, refused⟩
  | indent failed => exact ⟨_, by decide, refuses_indent failed⟩
  | depth failed => exact ⟨_, by decide, refuses_depth failed⟩
  | backticks _ failed => exact ⟨_, by decide, refuses_backticks failed⟩
  | block _ failed => exact ⟨_, by decide, refuses_block failed⟩

/-- A context whose mode is math and whose depth and indentation can be read, as it is for all
elements of a container. -/
structure Inside (c : Context) : Prop where
  math : c.mode = .ok .math
  depth : ∃ depth, c.depth = .ok depth
  indent : ∃ unit, c.indent = .ok unit

theorem Unread.refuses_of_inside (unread : Unread rule c f) (within : Inside c) :
    ∃ key ∈ ["backticks", "block"], Refuses c key f := by
  obtain ⟨math, ⟨depth, deep⟩, unit, indent⟩ := within
  cases unread with
  | mode failed =>
    rw [math] at failed
    cases failed
  | pad failed =>
    rw [mathPad, math] at failed
    cases failed
  | indent failed =>
    rw [indent] at failed
    cases failed
  | depth failed =>
    rw [deep] at failed
    cases failed
  | backticks _ failed => exact ⟨_, by decide, refuses_backticks failed⟩
  | block _ failed => exact ⟨_, by decide, refuses_block failed⟩

end

/-! ### Rules -/

section

variable {w : Writer} {v : Value} {c : Context} {P : Fault → Prop}

theorem guarded_codeSigil {rule : BuiltinRule} : (codeSigil c).Guarded (Unread rule c) P :=
  guarded_attempt (fun _ failed => .inr (.mode failed)) fun _ _ => (failsOnly_text _).guarded

theorem failsOnly_parameterHead {function : List Char} {keys : List String}
    (each : ∀ key ∈ keys, ∀ f, c.parameter key = .error f → P f) :
    (parameterHead c function keys).FailsOnly P := by
  refine (failsOnly_text _).append (FailsOnly.append (failsOnly_concat ?_) (failsOnly_text _))
  intro e member
  obtain ⟨key, known, rfl⟩ := List.mem_map.1 member
  exact failsOnly_attempt (each key known) fun value _ => failsOnly_text _

theorem failsOnly_closing {unit : List Char} {depth : Nat}
    (error : ∀ f, repeated unit depth = .error f → P f) : (closing unit depth).FailsOnly P :=
  failsOnly_attempt error fun _ _ => failsOnly_text _

theorem failsOnly_writeElements {items : List Value} (each : ∀ x ∈ items, (w x c).FailsOnly P) :
    (writeElements w c items).FailsOnly P := by
  apply failsOnly_join
  intro e member
  obtain ⟨x, listed, rfl⟩ := List.mem_map.1 member
  exact each x listed

theorem guarded_writeVector (obstacle : ∀ f, Obstacle v c f .vector → P f)
    (element : ∀ x ∈ elements .vector v, ∀ depth unit, c.depth = .ok depth → c.indent = .ok unit →
      (w x (inner c depth)).FailsOnly P) : (writeVector w v c).Guarded (Unread .vector c) P := by
  unfold writeVector
  refine guarded_attempt (fun _ failed => .inr (.depth failed)) fun depth deep => ?_
  refine guarded_attempt (fun _ failed => .inr (.indent failed)) fun unit indent => ?_
  refine guarded_attempt (fun _ failed => .inr (.pad failed)) fun pad _ => ?_
  apply FailsOnly.guarded
  have head : (parameterHead (c.withMode .math) "vec".toList vectorParameters).FailsOnly P := by
    rw [parameterHead_withMode c .math _ (by decide)]
    exact failsOnly_parameterHead fun key known f failed =>
      obstacle f (.parameter (by decide) (List.mem_append_left _ known) failed)
  have indented : ∀ levels ≤ 1, ∀ f, repeated unit (depth + levels : Nat) = .error f → P f :=
    fun _ one f failed => obstacle f (.limit (.indentation (by decide) deep indent one failed))
  have last : (closing unit depth).FailsOnly P := failsOnly_closing (indented 0 (Nat.zero_le 1))
  refine FailsOnly.enclose (head.append ?_) _ _
  refine failsOnly_attempt (indented 1 (Nat.le_refl 1)) fun spaces _ => ?_
  refine (failsOnly_text spaces).append (FailsOnly.append ?_ last)
  refine failsOnly_attempt (fun f failed => obstacle f (.unfit (.noItems failed))) ?_
  intro items found
  apply failsOnly_writeElements
  intro x member
  refine element x ?_ depth unit deep indent
  simp only [elements, found]
  exact member

theorem guarded_writeMatrix (obstacle : ∀ f, Obstacle v c f .matrix → P f)
    (element : ∀ x ∈ elements .matrix v, ∀ depth unit, c.depth = .ok depth → c.indent = .ok unit →
      (w x (inner c depth)).FailsOnly P) : (writeMatrix w v c).Guarded (Unread .matrix c) P := by
  unfold writeMatrix
  refine guarded_attempt (fun _ failed => .inr (.depth failed)) fun depth deep => ?_
  refine guarded_attempt (fun _ failed => .inr (.indent failed)) fun unit indent => ?_
  refine guarded_attempt (fun _ failed => .inr (.pad failed)) fun pad _ => ?_
  apply FailsOnly.guarded
  have head : (parameterHead (inner c depth) "mat".toList matrixParameters).FailsOnly P := by
    rw [parameterHead_inner c depth _ (by decide) (by decide)]
    exact failsOnly_parameterHead fun key known f failed =>
      obstacle f (.parameter (by decide) (List.mem_append_right _ known) failed)
  have indented : ∀ levels ≤ 1, ∀ f, repeated unit (depth + levels : Nat) = .error f → P f :=
    fun _ one f failed => obstacle f (.limit (.indentation (by decide) deep indent one failed))
  have last : (closing unit depth).FailsOnly P := failsOnly_closing (indented 0 (Nat.zero_le 1))
  refine FailsOnly.enclose (head.append (FailsOnly.append ?_ last)) _ _
  refine failsOnly_attempt (fun f failed => obstacle f (.unfit (.noRows failed))) ?_
  intro rows found
  apply failsOnly_join
  intro e member
  obtain ⟨row, listed, rfl⟩ := List.mem_map.1 member
  refine failsOnly_attempt (indented 1 (Nat.le_refl 1)) fun spaces _ => ?_
  refine (failsOnly_text spaces).append (failsOnly_attempt ?_ ?_)
  · intro f failed
    subst failed
    exact obstacle f (.unfit (.noRow found listed))
  · intro items same
    subst same
    apply failsOnly_writeElements
    intro x member
    refine element x ?_ depth unit deep indent
    simp only [elements, found, List.mem_flatMap]
    exact ⟨_, listed, member⟩

theorem guarded_writeFraction (obstacle : ∀ f, Obstacle v c f .fraction → P f)
    (number : ∀ n ∈ numerals .fraction v, ∀ d, (w (.int n) d).FailsOnly P) :
    (writeFraction w v c).Guarded (Unread .fraction c) P := by
  have body (d : Context) : (match ratio? v with
      | some (numerator, denominator) =>
        w (.int numerator) d ++ (text [' ', '/', ' '] ++ w (.int denominator) d)
      | none => fail (lacks v "numerator")).FailsOnly P := by
    split
    · rename_i numerator denominator found
      have both : ∀ n ∈ [numerator, denominator], ∀ d, (w (.int n) d).FailsOnly P := by
        simpa only [numerals, found] using number
      exact (both _ (by simp) d).append ((failsOnly_text _).append (both _ (by simp) d))
    · rename_i absent
      exact failsOnly_fail (obstacle _ (.unfit (.noRatio absent rfl)))
  refine guarded_attempt (fun _ failed => .inr (.mode failed)) fun mode _ => ?_
  split
  · refine guarded_attempt (fun _ failed => .inr (.pad failed)) fun pad _ => ?_
    exact ((body _).enclose _ _).guarded
  · exact ((body c).enclose _ _).guarded

theorem failsOnly_writeChar (obstacle : ∀ f, Obstacle v c f .char → P f) (mode : Mode) :
    (if mode = .code then
      surround ['"'] (attempt (textOf v) fun s =>
        text (s.flatMap fun c => if c = '\\' || c = '"' then ['\\', c] else [c]))
    else attemptText (plainOf v)).FailsOnly P := by
  split
  · apply FailsOnly.enclose
    apply failsOnly_attempt
    · exact fun f failed => obstacle f (.unfit (.notReplaced failed))
    · exact fun s _ => failsOnly_text _
  · exact failsOnly_attemptText fun f failed => obstacle f (.unfit (.notPlain failed))

theorem guarded_writeString (obstacle : ∀ f, Obstacle v c f .string → P f) :
    (writeString v c).Guarded (Unread .string c) P := by
  have body (replacement : List Char) : (attempt (textOf v) fun s =>
      text (replaceQuotes replacement s)).FailsOnly P := by
    apply failsOnly_attempt
    · exact fun f failed => obstacle f (.unfit (.notQuoted failed))
    · exact fun s _ => failsOnly_text _
  refine guarded_attempt (fun _ failed => .inr (.mode failed)) fun mode _ => FailsOnly.guarded ?_
  split
  · exact (body _).enclose _ _
  · exact (body _).enclose _ _

theorem guarded_writePattern (obstacle : ∀ f, Obstacle v c f .pattern → P f) :
    (writePattern v c).Guarded (Unread .pattern c) P := by
  unfold writePattern
  split
  · exact guarded_codeSigil.append ((failsOnly_text _).enclose _ _)
  · rename_i same
    exact (failsOnly_fail (obstacle _ (.bytes rfl same rfl))).guarded
  · rename_i text bytes
    refine (failsOnly_fail (obstacle _ (.unfit (.noPattern ?_ rfl)))).guarded
    intro p same
    cases p with
    | text source flags => exact text source flags same
    | bytes source flags => exact bytes source flags same

theorem guarded_writeRange (obstacle : ∀ f, Obstacle v c f .range → P f)
    (number : ∀ n ∈ numerals .range v, ∀ d, (w (.int n) d).FailsOnly P) :
    (writeRange w v c).Guarded (Unread .range c) P := by
  unfold writeRange
  split
  · rename_i p same
    split
    · rename_i long
      exact (failsOnly_fail (obstacle _ (.limit (.length same long rfl)))).guarded
    · have each : ∀ n ∈ [p.start, writtenStop p, p.step], ∀ d, (w (.int n) d).FailsOnly P := by
        simpa only [numerals, same] using number
      refine guarded_codeSigil.append (FailsOnly.enclose ?_ _ _)
      refine (each _ (by simp) _).append ((failsOnly_text _).append ?_)
      exact (each _ (by simp) _).append ((failsOnly_text _).append (each _ (by simp) _))
  · rename_i other
    exact (failsOnly_fail (obstacle _ (.unfit (.noRange other rfl)))).guarded

theorem failsOnly_writeVerbatim (obstacle : ∀ f, Obstacle v c f .verbatim → P f) :
    (writeVerbatim v).FailsOnly P := by
  unfold writeVerbatim
  split
  · exact failsOnly_text _
  · exact failsOnly_text _
  · rename_i verbatim raw
    apply failsOnly_fail
    apply obstacle _ (.unfit _)
    exact .noText (fun text language => ⟨verbatim text, raw text language⟩) rfl

theorem guarded_writeRaw (obstacle : ∀ f, Obstacle v c f .raw → P f) :
    (writeRaw v c).Guarded (Unread .raw c) P := by
  refine guarded_attempt (fun _ failed => .inr (.backticks rfl failed)) fun count found => ?_
  refine guarded_attempt (fun _ failed => .inr (.block rfl failed)) fun block _ => ?_
  refine guarded_attempt (fun _ failed => .inr (.mode failed)) fun mode _ => FailsOnly.guarded ?_
  refine (failsOnly_text _).append (failsOnly_attempt (fun f failed =>
    obstacle f (.limit (.fence found failed))) fun fence _ => ?_)
  split
  · exact (failsOnly_text _).enclose _ _
  · rename_i other
    exact failsOnly_fail (obstacle _ (.unfit (.noLanguage other rfl)))

/-- A rule fails with a setting before it has written anything, or with an obstacle of its own, or
with what it writes further. -/
theorem BuiltinRule.apply_guarded (rule : BuiltinRule)
    (obstacle : ∀ f, Obstacle v c f rule → P f)
    (number : ∀ n ∈ numerals rule v, ∀ d, (w (.int n) d).FailsOnly P)
    (element : ∀ x ∈ elements rule v, ∀ depth unit, c.depth = .ok depth → c.indent = .ok unit →
      (w x (inner c depth)).FailsOnly P) : (rule.apply w v c).Guarded (Unread rule c) P := by
  cases rule with
  | bool =>
    refine guarded_attempt (fun _ failed => .inr (.mode failed)) fun mode _ => FailsOnly.guarded ?_
    cases mode <;> exact failsOnly_text _
  | integer =>
    apply FailsOnly.guarded
    refine failsOnly_attempt (fun f failed => obstacle f (.unfit (.notInteger failed))) ?_
    intro n found
    refine failsOnly_attemptText fun f failed => obstacle f (.limit (.digits (n := n) ?_ failed))
    simp [numerals, found, Except.toOption]
  | float =>
    exact (failsOnly_attempt (fun f failed => obstacle f (.unfit (.notFloating failed)))
      fun x _ => failsOnly_text _).guarded
  | decimal =>
    exact (failsOnly_attempt (fun f failed => obstacle f (.unfit (.unshown failed)))
      fun text _ => failsOnly_text _).guarded
  | fraction => exact guarded_writeFraction obstacle number
  | complex =>
    refine guarded_attempt (fun f failed => .inl (obstacle f (.unfit (.noParts failed)))) ?_
    intro parts _
    refine guarded_attempt (fun _ failed => .inr (.pad failed)) fun pad _ => ?_
    exact ((failsOnly_text _).enclose _ _).guarded
  | char =>
    refine guarded_attempt (fun _ failed => .inr (.mode failed)) fun mode _ => ?_
    exact (failsOnly_writeChar obstacle mode).guarded
  | string => exact guarded_writeString obstacle
  | pattern => exact guarded_writePattern obstacle
  | null =>
    refine guarded_attempt (fun _ failed => .inr (.mode failed)) fun mode _ => ?_
    exact (failsOnly_text _).guarded
  | range => exact guarded_writeRange obstacle number
  | verbatim => exact (failsOnly_writeVerbatim obstacle).guarded
  | markup =>
    apply FailsOnly.guarded
    exact failsOnly_attemptText fun f failed => obstacle f (.unfit (.noSource failed))
  | raw => exact guarded_writeRaw obstacle
  | vector => exact guarded_writeVector obstacle element
  | matrix => exact guarded_writeMatrix obstacle element

end

/-! ### Writing -/

section

variable {r : Registry} (plain : r.IsBuiltin) {v : Value} {c : Context} {P : Fault → Prop}

include plain

theorem failsOnly_write_int {n : Int} (digits : ∀ f, integerText n = .error f → P f) :
    (write r (.int n) c).FailsOnly P := by
  rw [write_int plain]
  refine failsOnly_attempt (fun f failed => nomatch failed) fun m same => ?_
  cases same
  exact failsOnly_attemptText digits

/-- A value without a rule fails before anything is written. The rule of any other value fails with
a setting before anything is written, or with an obstacle, a number or an element. -/
theorem write_guarded (unregistered : ∀ f, asRegistered r v = .error f → P f)
    (unsupported : ∀ kind, P (.unsupportedKind kind))
    (obstacle : ∀ shown rule, Applies r v shown rule → ∀ f,
      Obstacle shown (settingsFor r shown c) f rule → P f)
    (digits : ∀ shown rule, Applies r v shown rule → ∀ n ∈ numerals rule shown, ∀ f,
      integerText n = .error f → P f)
    (element : ∀ shown rule, Applies r v shown rule → ∀ x ∈ elements rule shown, ∀ depth unit,
      (settingsFor r shown c).depth = .ok depth → (settingsFor r shown c).indent = .ok unit →
        (write r x (inner (settingsFor r shown c) depth)).FailsOnly P) :
    (write r v c).Guarded
      (fun f => ∃ shown rule,
        Applies r v shown rule ∧ Unread rule (settingsFor r shown c) f) P := by
  rw [write_eq plain]
  apply guarded_attempt
  · exact fun f failed => .inl (unregistered f failed)
  · intro shown registered
    split
    · rename_i rule found
      have applies : Applies r v shown rule := ⟨registered, found⟩
      have guarded : (rule.apply (write r) shown (settingsFor r shown c)).Guarded
          (Unread rule (settingsFor r shown c)) P := by
        apply rule.apply_guarded (obstacle shown rule applies)
        · intro n written d
          exact failsOnly_write_int plain (digits shown rule applies n written)
        · exact element shown rule applies
      intro f failed
      rcases guarded f failed with allowed | ⟨unread, nothing⟩
      · exact .inl allowed
      · exact .inr ⟨⟨shown, rule, applies, unread⟩, nothing⟩
    · apply FailsOnly.guarded
      exact failsOnly_fail (unsupported _)

end

end Markup

end TypstMarkup
