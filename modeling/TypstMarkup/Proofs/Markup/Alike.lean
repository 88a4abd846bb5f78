import TypstMarkup.Markup.Write
import TypstMarkup.Proofs.OrderedMap

/-!
Contexts that hold the same values. Rules look settings up by their keys, so the order in which the
settings came about has no influence on what is written.
-/
namespace TypstMarkup

/-! ### Contexts -/

namespace Context

variable {c d : Context}

theorem found_congr {key : String} (same : c.get? key = d.get? key) :
    c.found key = d.found key := by
  rw [Context.found, same, Context.found]

theorem mode_congr (same : c.get? "mode" = d.get? "mode") : c.mode = d.mode := by
  rw [Context.mode, same, found_congr same, Context.mode]

theorem inline_congr (same : c.get? "inline" = d.get? "inline") : c.inline = d.inline := by
  rw [Context.inline, same, found_congr same, Context.inline]

theorem indent_congr (same : c.get? "indent" = d.get? "indent") : c.indent = d.indent := by
  rw [Context.indent, found_congr same, Context.indent]

theorem depth_congr (same : c.get? "depth" = d.get? "depth") : c.depth = d.depth := by
  rw [Context.depth, found_congr same, Context.depth]

theorem parameter_congr {key : String} (same : c.get? key = d.get? key) :
    c.parameter key = d.parameter key := by
  rw [Context.parameter, same, Context.parameter]

theorem get?_insert_congr {key other : String} (v : Value)
    (agree : other ≠ key → c.get? other = d.get? other) :
    (c.insert key v).get? other = (d.insert key v).get? other := by
  by_cases same : other = key
  · rw [same, OrderedMap.get?_insert_self, OrderedMap.get?_insert_self]
  · rw [OrderedMap.get?_insert_of_ne c v same, OrderedMap.get?_insert_of_ne d v same, agree same]

/-- Contexts with the same values under all keys. -/
def Alike (c d : Context) : Prop := ∀ key, c.get? key = d.get? key

theorem Alike.refl (c : Context) : Alike c c := fun _ => rfl

theorem Alike.insert (alike : Alike c d) (key : String) (v : Value) :
    Alike (c.insert key v) (d.insert key v) :=
  fun other => get?_insert_congr v fun _ => alike other

theorem Alike.insertAll (alike : Alike c d) (entries : List (String × Value)) :
    Alike (c.insertAll entries) (d.insertAll entries) := by
  induction entries generalizing c d with
  | nil => exact alike
  | cons entry rest ih => exact ih (alike.insert entry.1 entry.2)

theorem Alike.fill (alike : Alike c d) (defaults : Context) :
    Alike (c.fill defaults) (d.fill defaults) := fun key => by
  rw [OrderedMap.get?_fill, OrderedMap.get?_fill, alike key]

theorem Alike.withMode (alike : Alike c d) (m : Mode) : Alike (c.withMode m) (d.withMode m) :=
  alike.insert "mode" (.mode m)

theorem Alike.withDepth (alike : Alike c d) (depth : Nat) :
    Alike (c.withDepth depth) (d.withDepth depth) :=
  alike.insert "depth" (.int depth)

theorem Alike.mode (alike : Alike c d) : c.mode = d.mode := mode_congr (alike "mode")

theorem Alike.inline (alike : Alike c d) : c.inline = d.inline := inline_congr (alike "inline")

theorem Alike.indent (alike : Alike c d) : c.indent = d.indent := indent_congr (alike "indent")

theorem Alike.depth (alike : Alike c d) : c.depth = d.depth := depth_congr (alike "depth")

/-! ### Settings that were just set -/

theorem mode_withMode (c : Context) (m : Mode) : (c.withMode m).mode = .ok m := by
  rw [Context.mode, Context.withMode, OrderedMap.get?_insert_self]

theorem mode_withDepth (c : Context) (n : Nat) : (c.withDepth n).mode = c.mode :=
  mode_congr (OrderedMap.get?_insert_of_ne _ _ (by decide))

theorem depth_withDepth (c : Context) (n : Nat) : (c.withDepth n).depth = .ok n := by
  have deep : (c.withDepth n).found "depth" = .int n := by
    rw [Context.found, Context.withDepth, OrderedMap.get?_insert_self]
    rfl
  rw [Context.depth, deep]
  exact if_pos (Int.natCast_nonneg n)

end Context

namespace Markup

open Context (Alike)

variable {c d : Context}

theorem mathPad_congr (mode : c.get? "mode" = d.get? "mode")
    (inline : c.get? "inline" = d.get? "inline") : mathPad c = mathPad d := by
  rw [mathPad, Context.mode_congr mode, Context.inline_congr inline, mathPad]

theorem parameterHead_congr {function : List Char} {keys : List String}
    (agree : ∀ key ∈ keys, c.get? key = d.get? key) :
    parameterHead c function keys = parameterHead d function keys := by
  have same : ∀ key ∈ keys, c.parameter key = d.parameter key := fun key member =>
    Context.parameter_congr (agree key member)
  have parts := List.map_congr_left fun key member =>
    congrArg (Emission.attempt · fun value => .text
      (if value.isEmpty then [] else key.toList ++ ':' :: ' ' :: value ++ [',', ' ']))
      (same key member)
  rw [parameterHead, parts, parameterHead]

/-! ### What the built-in rules find in a context -/

/-- The keys under which a built-in rule looks settings up. -/
def BuiltinRule.reads : BuiltinRule → List String
  | .bool | .char | .string | .pattern | .null | .range => ["mode"]
  | .integer | .float | .decimal | .verbatim | .markup => []
  | .fraction | .complex => ["mode", "inline"]
  | .raw => ["mode", "backticks", "block"]
  | .vector => ["mode", "inline", "indent", "depth"] ++ vectorParameters
  | .matrix => ["mode", "inline", "indent", "depth"] ++ matrixParameters

/-- Contexts with the same values under the keys that a rule looks up; whether math is inline counts
for its delimiter only. -/
structure BuiltinRule.Agrees (rule : BuiltinRule) (c d : Context) : Prop where
  pad : "inline" ∈ rule.reads → mathPad c = mathPad d
  others : ∀ key ∈ rule.reads, key ≠ "inline" → c.get? key = d.get? key

/-- Contexts with the same delimiter of math, and the same values under all keys but the one that
says whether math is inline. -/
structure Indistinct (c d : Context) : Prop where
  pad : mathPad c = mathPad d
  others : ∀ key, key ≠ "inline" → c.get? key = d.get? key

theorem indistinct_of_alike (alike : Alike c d) : Indistinct c d :=
  ⟨mathPad_congr (alike _) (alike _), fun key _ => alike key⟩

theorem Indistinct.insert (same : Indistinct c d) {key : String} (v : Value) {other : String}
    (notInline : other ≠ "inline") : (c.insert key v).get? other = (d.insert key v).get? other :=
  Context.get?_insert_congr v fun _ => same.others other notInline

theorem Indistinct.agrees (same : Indistinct c d) (rule : BuiltinRule) : rule.Agrees c d :=
  ⟨fun _ => same.pad, fun key _ => same.others key⟩

/-! ### What rules write further -/

/-- The values that a built-in rule writes while it writes a value. -/
inductive Writes : BuiltinRule → Value → Value → Prop where
  | quotient (v : Value) (n : Int) : Writes .fraction v (.int n)
  | bound (v : Value) (n : Int) : Writes .range v (.int n)
  | item {v x : Value} {items : List Value} (found : v.items? = .ok items) (member : x ∈ items) :
      Writes .vector v x
  | cell {v x : Value} {rows : List (Except Fault (List Value))} {row : List Value}
      (found : rowsOf v = .ok rows) (member : .ok row ∈ rows) (within : x ∈ row) :
      Writes .matrix v x

variable {w w' : Writer} {v : Value}

theorem writeElements_congr {items : List Value} (agree : ∀ x ∈ items, w x c = w' x d) :
    writeElements w c items = writeElements w' d items := by
  rw [writeElements, List.map_congr_left agree, writeElements]

theorem writeVector_congr (same : BuiltinRule.vector.Agrees c d)
    (agree : ∀ x, Writes .vector v x → ∀ depth,
      w x ((c.withMode .math).withDepth depth) = w' x ((d.withMode .math).withDepth depth)) :
    writeVector w v c = writeVector w' v d := by
  have head : parameterHead (c.withMode .math) "vec".toList vectorParameters =
      parameterHead (d.withMode .math) "vec".toList vectorParameters :=
    parameterHead_congr fun key member => Context.get?_insert_congr _ fun _ =>
      same.others key (List.mem_append_right _ member) (ne_of_mem_of_not_mem member (by decide))
  have depth := Context.depth_congr (same.others "depth" (by decide) (by decide))
  have indent := Context.indent_congr (same.others "indent" (by decide) (by decide))
  have elements (depth : Nat) : (Emission.attempt v.items? fun items =>
      writeElements w ((c.withMode .math).withDepth depth) items) =
        .attempt v.items? fun items =>
          writeElements w' ((d.withMode .math).withDepth depth) items := by
    cases found : v.items? with
    | error f => rfl
    | ok items => exact writeElements_congr fun x member => agree x (.item found member) depth
  simp only [writeVector, depth, indent, same.pad (by decide), head, elements]

theorem writeMatrix_congr (same : BuiltinRule.matrix.Agrees c d)
    (agree : ∀ x, Writes .matrix v x → ∀ depth,
      w x ((c.withMode .math).withDepth depth) = w' x ((d.withMode .math).withDepth depth)) :
    writeMatrix w v c = writeMatrix w' v d := by
  have head (depth : Nat) :
      parameterHead ((c.withMode .math).withDepth depth) "mat".toList matrixParameters =
        parameterHead ((d.withMode .math).withDepth depth) "mat".toList matrixParameters :=
    parameterHead_congr fun key member => Context.get?_insert_congr _ fun _ =>
      Context.get?_insert_congr _ fun _ =>
        same.others key (List.mem_append_right _ member) (ne_of_mem_of_not_mem member (by decide))
  have deep := Context.depth_congr (same.others "depth" (by decide) (by decide))
  have indent := Context.indent_congr (same.others "indent" (by decide) (by decide))
  have rows (depth : Nat) (spaces : Except Fault (List Char)) :
      (Emission.attempt (rowsOf v) fun rows => .join [';', '\n']
        (rows.map (writeRow w ((c.withMode .math).withDepth depth) spaces))) =
          .attempt (rowsOf v) fun rows => .join [';', '\n']
            (rows.map (writeRow w' ((d.withMode .math).withDepth depth) spaces)) := by
    cases found : rowsOf v with
    | error f => rfl
    | ok rows =>
      refine congrArg (Emission.join _) (List.map_congr_left fun row member => ?_)
      cases row with
      | error f => rfl
      | ok row =>
        have elements : writeElements w ((c.withMode .math).withDepth depth) row =
            writeElements w' ((d.withMode .math).withDepth depth) row :=
          writeElements_congr fun x within => agree x (.cell found member within) depth
        simp only [writeRow, Emission.attempt, elements]
  simp only [writeMatrix, deep, indent, same.pad (by decide), head, rows]

/-- What a built-in rule writes is decided by what it finds in the context and by what the values
that it writes further are written as: numbers in the same place, elements of containers deeper. -/
theorem BuiltinRule.apply_congr_of_agrees (rule : BuiltinRule) (same : rule.Agrees c d)
    (number : ∀ n, Writes rule v (.int n) → w (.int n) c = w' (.int n) d ∧
      ∀ m, w (.int n) (c.withMode m) = w' (.int n) (d.withMode m))
    (element : ∀ x, Writes rule v x → ∀ depth,
      w x ((c.withMode .math).withDepth depth) = w' x ((d.withMode .math).withDepth depth)) :
    rule.apply w v c = rule.apply w' v d := by
  have mode (read : "mode" ∈ rule.reads) : c.mode = d.mode :=
    Context.mode_congr (same.others _ read (by decide))
  have pad := same.pad
  cases rule with
  | bool => simp only [apply, writeBool, mode (by decide)]
  | fraction =>
    have place (n : Int) := (number n (.quotient v n)).1
    have math (n : Int) := (number n (.quotient v n)).2 .math
    simp only [apply, writeFraction, mode (by decide), pad (by decide), place, math]
  | complex => simp only [apply, writeComplex, pad (by decide)]
  | char => simp only [apply, writeChar, mode (by decide)]
  | string => simp only [apply, writeString, quote, mode (by decide)]
  | pattern => simp only [apply, writePattern, codeSigil, mode (by decide)]
  | null => simp only [apply, writeNull, mode (by decide)]
  | range =>
    have code (n : Int) := (number n (.bound v n)).2 .code
    simp only [apply, writeRange, codeSigil, mode (by decide), code]
  | raw =>
    have fence : backticks c = backticks d := by
      rw [backticks, Context.found_congr (same.others _ (by decide) (by decide)), backticks]
    have block : isBlock c = isBlock d := by
      have found := same.others "block" (by decide) (by decide)
      rw [isBlock, found, Context.found_congr found, isBlock]
    simp only [apply, writeRaw, fence, block, mode (by decide)]
  | vector => exact writeVector_congr same element
  | matrix => exact writeMatrix_congr same element
  | integer | float | decimal | verbatim | markup => rfl

theorem BuiltinRule.apply_congr_of_indistinct (rule : BuiltinRule) (same : Indistinct c d)
    (number : ∀ n, Writes rule v (.int n) → w (.int n) c = w' (.int n) d ∧
      ∀ m, w (.int n) (c.withMode m) = w' (.int n) (d.withMode m))
    (element : ∀ x, Writes rule v x → ∀ depth,
      w x ((c.withMode .math).withDepth depth) = w' x ((d.withMode .math).withDepth depth)) :
    rule.apply w v c = rule.apply w' v d :=
  rule.apply_congr_of_agrees (same.agrees rule) number element

/-- A built-in rule looks settings up by their keys, and writes certain further values only. -/
theorem BuiltinRule.apply_congr (rule : BuiltinRule) (alike : Alike c d)
    (agree : ∀ x c d, Writes rule v x → Alike c d → w x c = w' x d) :
    rule.apply w v c = rule.apply w' v d :=
  rule.apply_congr_of_indistinct (indistinct_of_alike alike)
    (fun _ writes => ⟨agree _ _ _ writes alike, fun m => agree _ _ _ writes (alike.withMode m)⟩)
    fun x writes depth => agree x _ _ writes ((alike.withMode .math).withDepth depth)

theorem writeAccessor_alike (alike : Alike c d) (which : CoreSetting) :
    writeAccessor which c = writeAccessor which d := by
  cases which with
  | mode => simp only [writeAccessor, alike.mode]
  | inline => simp only [writeAccessor, alike.inline]
  | indent => simp only [writeAccessor, alike.indent]
  | depth => simp only [writeAccessor, alike.depth]

theorem Procedure.context_alike (alike : Alike c d) (inherits : Bool)
    (settings : List (String × Value)) :
    Alike (context c inherits settings) (context d inherits settings) := by
  unfold context
  split
  · exact alike.insertAll settings
  · exact .refl _

theorem Procedure.run_alike (p : Procedure) (alike : Alike c d)
    (agree : ∀ v c d, Alike c d → w v c = w v d) : p.run w c = p.run w d := by
  induction p with
  | finish e => rfl
  | call v inherits settings next ih =>
    rw [run, run, agree v _ _ (context_alike alike inherits settings)]
    exact ih _

/-- Whatever rules are registered, contexts with the same values give the same text or the same
failure. -/
theorem writeWithin_alike (r : Registry) (budget : Nat) :
    (∀ v c d, Alike c d → writeWithin r budget v c = writeWithin r budget v d) ∧
      ∀ rule v c d, Alike c d → applyWithin r budget rule v c = applyWithin r budget rule v d := by
  induction budget with
  | zero => exact ⟨fun _ _ _ _ => rfl, fun _ _ _ _ _ => rfl⟩
  | succ budget ih =>
    obtain ⟨write, apply⟩ := ih
    constructor
    · intro v c d alike
      rw [writeWithin, writeWithin]
      cases asRegistered r v with
      | error f => rfl
      | ok v =>
        simp only [Emission.attempt]
        cases r.resolve v.kind with
        | none => rfl
        | some rule => exact apply rule v _ _ (alike.fill _)
    · intro rule v c d alike
      rw [applyWithin.eq_def, applyWithin.eq_def]
      dsimp only
      cases rule with
      | builtin rule => exact rule.apply_congr alike fun x c d _ => write x c d
      | composed name parts =>
        refine congrArg Emission.concat (List.map_congr_left fun part _ => ?_)
        cases part with
        | text | plain | fail => rfl
        | setting key => simp only [alike key]
        | optional key => simp only [Context.found_congr (alike key)]
        | accessor which => exact writeAccessor_alike alike which
        | parameter key => simp only [Context.parameter_congr (alike key)]
        | payload overrides =>
          dsimp only
          split
          · exact write _ _ _ (alike.insertAll overrides)
          · rfl
        | procedure body =>
          have same : c.get? = d.get? := funext alike
          simp only [same]
          exact Procedure.run_alike _ alike write
        | delegate kind =>
          dsimp only
          cases r.resolve kind with
          | none => rfl
          | some rule => exact apply rule v c d alike

theorem write_alike (r : Registry) (v : Value) (alike : Alike c d) : write r v c = write r v d :=
  (writeWithin_alike r (budget r v)).1 v c d alike

end Markup

end TypstMarkup
