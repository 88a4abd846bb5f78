import TypstMarkup.Proofs.Markup.Frame

/-!
Delimiters of math. A container switches its elements to math mode, and in math mode nothing that a
built-in rule writes depends on whether math is inline. So the only delimiters in the text of a
container are those around it.
-/
namespace TypstMarkup.Markup

open Emission

variable {c d : Context} {p : List Char}

/-! ### Math mode -/

theorem get?_mode_of_mode {m : Mode} (mode : c.mode = .ok m) : c.get? "mode" = some (.mode m) := by
  unfold Context.mode at mode
  split at mode
  · rename_i found
    cases mode
    exact found
  · cases mode

theorem get?_inline_of_inline {b : Bool} (inline : c.inline = .ok b) :
    c.get? "inline" = some (.bool b) := by
  unfold Context.inline at inline
  split at inline
  · rename_i found
    cases inline
    exact found
  · cases inline

theorem mode_of_get? {m : Mode} (found : c.get? "mode" = some (.mode m)) : c.mode = .ok m := by
  rw [Context.mode, found]

theorem inline_of_get? {b : Bool} (found : c.get? "inline" = some (.bool b)) :
    c.inline = .ok b := by
  rw [Context.inline, found]

theorem mathPad_of_math (math : c.mode = .ok .math) : mathPad c = .ok [] := by
  rw [mathPad, math]
  rfl

/-- Settings that a context has are not filled in, so its delimiter stays. -/
theorem mathPad_fill (pad : mathPad c = .ok p) (defaults : Context) :
    mathPad (c.fill defaults) = .ok p := by
  obtain ⟨m, mode, chosen⟩ := bind_eq_ok_iff.1 pad
  have filledMode : Context.mode (c.fill defaults) = .ok m := by
    apply mode_of_get?
    rw [OrderedMap.get?_fill, get?_mode_of_mode mode, Option.some_or]
  by_cases math : m = .math
  · subst math
    cases chosen
    exact mathPad_of_math filledMode
  · rw [if_neg math] at chosen
    obtain ⟨b, inline, same⟩ := bind_eq_ok_iff.1 chosen
    have filledInline : Context.inline (c.fill defaults) = .ok b := by
      apply inline_of_get?
      rw [OrderedMap.get?_fill, get?_inline_of_inline inline, Option.some_or]
    rw [← pad, mathPad, mathPad, filledMode, filledInline, mode, inline]

/-- The delimiter is decided by the mode and by whether math is inline. -/
theorem exists_mathPad (m : Mode) (b : Bool) :
    ∃ p, ∀ c : Context, c.get? "mode" = some (.mode m) → c.get? "inline" = some (.bool b) →
      mathPad c = .ok p := by
  refine ⟨if m = .math then [] else if b then ['$'] else ['$', ' '], fun c mode inline => ?_⟩
  rw [mathPad, mode_of_get? mode, inline_of_get? inline]
  cases m <;> rfl

theorem indistinct_of_math (math : c.mode = .ok .math)
    (others : ∀ key, key ≠ "inline" → c.get? key = d.get? key) : Indistinct c d where
  pad := by
    have found := get?_mode_of_mode math
    rw [others "mode" (by decide)] at found
    rw [mathPad_of_math math, mathPad_of_math (mode_of_get? found)]
  others := others

/-! ### Elements -/

section

variable {r : Registry} (plain : r.IsBuiltin)

include plain

theorem write_leaf_congr {x : Value} (leaf : Value.IsLeaf x) (mode : c.mode = d.mode) :
    write r x c = write r x d := by
  cases leaf with
  | int n => rw [write_int plain, write_int plain]
  | str text => rw [write_str plain, write_str plain, quote, mode, quote]
  | mode m =>
    have none : r.resolve (Value.mode m).kind = none := plain.resolve_eq (by rintro _ _ ⟨⟩)
    rw [write_eq plain, write_eq plain]
    simp [asRegistered, none, Value.core, attempt]

/-- In math mode it does not matter whether math is inline, nor whether that can be read. -/
theorem write_in_math (v : Value) (math : c.mode = .ok .math)
    (others : ∀ key, key ≠ "inline" → c.get? key = d.get? key) : write r v c = write r v d := by
  induction high : v.height using Nat.strongRecOn generalizing v c d with
  | ind high ih =>
    subst high
    rw [write_eq plain, write_eq plain]
    cases registered : asRegistered r v with
    | error f => rfl
    | ok v' =>
      have low := height_asRegistered registered
      simp only [attempt]
      split
      · rename_i rule found
        have filled : Indistinct (c.fill (r.kindDefaults v'))
            (d.fill (r.kindDefaults v')) := by
          refine ⟨?_, fun key other => ?_⟩
          · rw [mathPad_fill (mathPad_of_math math), mathPad_fill]
            rw [← (indistinct_of_math math others).pad, mathPad_of_math math]
          · rw [OrderedMap.get?_fill, OrderedMap.get?_fill, others key other]
        refine rule.apply_congr_of_indistinct filled (fun n _ => ?_) fun x writes depth => ?_
        · simp only [write_int plain, implies_true, and_self]
        -- Elements are written in math mode again.
        have inMath (c : Context) : ((c.withMode .math).withDepth depth).mode = .ok .math := by
          rw [Context.mode_withDepth, Context.mode_withMode]
        rcases lower_of_writes plain writes found with leaf | lower
        · exact write_leaf_congr plain leaf (by rw [inMath, inMath])
        · refine ih x.height (by omega) x (inMath _) (fun key other => ?_) rfl
          by_cases isDepth : key = "depth"
          · rw [isDepth, Context.withDepth, Context.withDepth, OrderedMap.get?_insert_self,
              OrderedMap.get?_insert_self]
          · rw [Context.withDepth, Context.withDepth, OrderedMap.get?_insert_of_ne _ _ isDepth,
              OrderedMap.get?_insert_of_ne _ _ isDepth]
            exact filled.insert _ other
      · rfl

end

/-! ### Containers -/

/-- The first emission is the second one between a delimiter and its reverse, and fails as it
does. -/
def Padded (p : List Char) (a b : Emission) : Prop :=
  a.toExcept = b.toExcept.map fun t => p ++ t ++ p.reverse

theorem padded_attempt {α : Type} {result : Except Fault α} {f g : α → Emission}
    (each : ∀ found, Padded p (f found) (g found)) :
    Padded p (attempt result f) (attempt result g) := by
  cases result with
  | ok found => exact each found
  | error f => rfl

theorem padded_surround (e : Emission) : Padded p (surround p e) (surround [] e) := by
  obtain ⟨written, fault⟩ := e
  cases fault with
  | some f => rfl
  | none =>
    have same : p ++ (written ++ p.reverse) = p ++ (written ++ []) ++ p.reverse := by simp
    exact congrArg Except.ok same

theorem withMode_withMode (c : Context) (m n : Mode) : (c.withMode m).withMode n = c.withMode n :=
  OrderedMap.insert_insert c "mode" _ _

theorem depth_withMode (c : Context) (m : Mode) : (c.withMode m).depth = c.depth :=
  Context.depth_congr (OrderedMap.get?_insert_of_ne _ _ (by decide))

theorem indent_withMode (c : Context) (m : Mode) : (c.withMode m).indent = c.indent :=
  Context.indent_congr (OrderedMap.get?_insert_of_ne _ _ (by decide))

theorem writeVector_padded (w : Writer) (v : Value) (pad : mathPad c = .ok p) :
    Padded p (writeVector w v c) (writeVector w v (c.withMode .math)) := by
  unfold writeVector
  rw [depth_withMode, indent_withMode, pad, mathPad_of_math (Context.mode_withMode c .math),
    withMode_withMode]
  exact padded_attempt fun _ => padded_attempt fun _ => padded_surround _

theorem writeMatrix_padded (w : Writer) (v : Value) (pad : mathPad c = .ok p) :
    Padded p (writeMatrix w v c) (writeMatrix w v (c.withMode .math)) := by
  unfold writeMatrix
  rw [depth_withMode, indent_withMode, pad, mathPad_of_math (Context.mode_withMode c .math),
    withMode_withMode]
  exact padded_attempt fun _ => padded_attempt fun _ => padded_surround _

section

variable {r : Registry} (plain : r.IsBuiltin)

include plain

/-- A container is written as in math mode, between delimiters. -/
theorem write_padded {v : Value} (container : r.resolve v.kind = some (.builtin .vector) ∨
    r.resolve v.kind = some (.builtin .matrix)) (pad : mathPad c = .ok p) :
    Padded p (write r v c) (write r v (c.withMode .math)) := by
  have swap : Context.Alike ((c.withMode .math).fill (r.kindDefaults v))
      (Context.withMode (c.fill (r.kindDefaults v)) .math) := fun key => by
    by_cases isMode : key = "mode"
    · rw [isMode, OrderedMap.get?_fill, Context.withMode, Context.withMode,
        OrderedMap.get?_insert_self, OrderedMap.get?_insert_self, Option.some_or]
    · rw [OrderedMap.get?_fill, Context.withMode, Context.withMode,
        OrderedMap.get?_insert_of_ne _ _ isMode, OrderedMap.get?_insert_of_ne _ _ isMode,
        OrderedMap.get?_fill]
  have filled := mathPad_fill pad (r.kindDefaults v)
  rw [write_eq plain, write_eq plain]
  rcases container with found | found
  · simp only [asRegistered, found, Option.isSome_some, ↓reduceIte, attempt]
    rw [BuiltinRule.apply_congr .vector swap fun x c d _ alike => write_alike r x alike]
    exact writeVector_padded (write r) v filled
  · simp only [asRegistered, found, Option.isSome_some, ↓reduceIte, attempt]
    rw [BuiltinRule.apply_congr .matrix swap fun x c d _ alike => write_alike r x alike]
    exact writeMatrix_padded (write r) v filled

end

theorem get?_effectiveContext_of_some (r : Registry) (v : Value) {s : Context} {key : String}
    {found : Value} (set : s.get? key = some found) :
    (effectiveContext r v s).get? key = some found := by
  rw [effectiveContext, OrderedMap.get?_update, set, Option.some_or]

theorem get?_effectiveContext_congr (r : Registry) (v : Value) {s t : Context} {key : String}
    (same : s.get? key = t.get? key) :
    (effectiveContext r v s).get? key = (effectiveContext r v t).get? key := by
  rw [effectiveContext, OrderedMap.get?_update, same, ← OrderedMap.get?_update, ← effectiveContext]

section

variable {r : Registry} (plain : r.IsBuiltin)

include plain

/-- The text of a container in any mode is its text in math mode between the delimiters of that
mode, and in math mode it does not matter whether math is inline. -/
theorem renderText_container {v : Value} (container : r.resolve v.kind = some (.builtin .vector) ∨
    r.resolve v.kind = some (.builtin .matrix)) (s : Context) (m : Mode) (b : Bool) :
    (∃ p, mathPad ((s.withMode m).insert "inline" (.bool b)) = .ok p ∧
      renderText r v ((s.withMode m).insert "inline" (.bool b)) =
        (renderText r v (s.withMode .math)).map fun t => p ++ t ++ p.reverse) ∧
    ∀ inline, renderText r v ((s.withMode .math).insert "inline" inline) =
      renderText r v (s.withMode .math) := by
  have mathMode : (s.withMode .math).get? "mode" = some (.mode .math) :=
    OrderedMap.get?_insert_self _ _ _
  constructor
  · have modeSet : ((s.withMode m).insert "inline" (.bool b)).get? "mode" = some (.mode m) := by
      rw [OrderedMap.get?_insert_of_ne _ _ (by decide), Context.withMode,
        OrderedMap.get?_insert_self]
    have inlineSet : ((s.withMode m).insert "inline" (.bool b)).get? "inline" =
        some (.bool b) := OrderedMap.get?_insert_self _ _ _
    obtain ⟨p, pad⟩ := exists_mathPad m b
    refine ⟨p, pad _ modeSet inlineSet, ?_⟩
    have padded := write_padded plain container (pad _
      (get?_effectiveContext_of_some r v modeSet) (get?_effectiveContext_of_some r v inlineSet))
    rw [renderText, renderText, padded, write_in_math plain v (Context.mode_withMode _ .math)]
    intro key other
    by_cases isMode : key = "mode"
    · rw [isMode, Context.withMode, OrderedMap.get?_insert_self,
        get?_effectiveContext_of_some r v mathMode]
    · rw [Context.withMode, OrderedMap.get?_insert_of_ne _ _ isMode]
      apply get?_effectiveContext_congr
      rw [OrderedMap.get?_insert_of_ne _ _ other, Context.withMode, Context.withMode,
        OrderedMap.get?_insert_of_ne _ _ isMode, OrderedMap.get?_insert_of_ne _ _ isMode]
  · intro inline
    have modeSet : ((s.withMode .math).insert "inline" inline).get? "mode" =
        some (.mode .math) := by
      rw [OrderedMap.get?_insert_of_ne _ _ (by decide), mathMode]
    have math := mode_of_get? (get?_effectiveContext_of_some r v modeSet)
    rw [renderText, renderText, write_in_math plain v math]
    intro key other
    exact get?_effectiveContext_congr r v (OrderedMap.get?_insert_of_ne _ _ other)

end

/-- The built-in registry with a kind of columns, which are lists. -/
def withColumns : Registry :=
  { Registry.builtin with
    lineages := [(.declared "notes" "Column", [.declared "notes" "Column", .list, .object])] }

theorem isBuiltin_withColumns : withColumns.IsBuiltin where
  rules := rfl
  defaults := rfl
  lineages kind home := by
    have other := home "notes" "Column"
    simp [withColumns, Table.get?, Ne.symm other]

def column : Value :=
  .object (.declared "notes" "Column") (some (.list [.complex (.zero false) (.zero true),
    .range ⟨1, 4, 1, by decide⟩, .matrix [[.fraction (mkRat 1 2), .raw "x" "py"]],
    .tuple [.bool true]])) none

def bracketSettings : Context :=
  OrderedMap.ofList [("delim", .str "\"[\""), ("depth", .int 1)]

theorem renderText_container_column :
    withColumns.IsBuiltin ∧ withColumns.resolve column.kind = some (.builtin .vector) ∧
      ∃ t, renderText withColumns column (bracketSettings.withMode .math) = .ok t ∧
        renderText withColumns column
          ((bracketSettings.withMode .markup).insert "inline" (.bool false)) =
            .ok (['$', ' '] ++ t ++ [' ', '$']) ∧
        renderText withColumns column
          ((bracketSettings.withMode .math).insert "inline" (.int 3)) = .ok t := by
  obtain ⟨t, written⟩ := exists_eq_ok
    (x := renderText withColumns column (bracketSettings.withMode .math)) (by decide +kernel)
  obtain ⟨⟨p, pad, padded⟩, inline⟩ := renderText_container isBuiltin_withColumns
    (v := column) (.inl rfl) bracketSettings .markup false
  cases pad
  refine ⟨isBuiltin_withColumns, rfl, t, written, ?_, ?_⟩
  · rw [padded, written]
    rfl
  · rw [inline, written]

end TypstMarkup.Markup
