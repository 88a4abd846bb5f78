import TypstMarkup.Proofs.Markup.Failure
import TypstMarkup.Proofs.Value.Operation

/-!
Documented failures. Formatting is meant to fail for two reasons: a kind has no rule, or a setting
is of another kind than a rule expects. What operations on values and texts fail with is neither.
-/
namespace TypstMarkup

namespace Markup

/-- A failure that formatting is meant to have. -/
def Documented (f : Fault) : Prop :=
  (∃ kind, f = .unsupportedKind kind) ∨ ∃ key found expected, f = .settingType key found expected

theorem not_documented {f : Fault} (noKind : f.category ≠ .unsupportedKind)
    (noSetting : f.category ≠ .settingType) : ¬Documented f := by
  rintro (⟨kind, rfl⟩ | ⟨key, found, expected, rfl⟩)
  · exact noKind rfl
  · exact noSetting rfl

end Markup

theorem Fault.Operational.not_documented {f : Fault} (operational : f.Operational) :
    ¬Markup.Documented f := by
  rintro (⟨kind, rfl⟩ | ⟨key, found, expected, rfl⟩)
  · cases operational
  · cases operational

namespace Markup

theorem Refuses.documented_or_overlong {c : Context} {key : String} {f : Fault}
    (refused : Refuses c key f) :
    Documented f ∨ (c.found key).overlong = true ∧ f = .tooManyDigits := by
  obtain ⟨expected, rfl⟩ := refused
  unfold Fault.ofSetting
  split
  · rename_i long
    exact .inr ⟨long, rfl⟩
  · exact .inl (.inr ⟨_, _, _, rfl⟩)

/-! ### Parts of rules -/

section

variable {v : Value} {f : Fault}

theorem isOperation_integerText (n : Int) : IsOperation (integerText n) := by
  unfold integerText
  split <;> simp

theorem isOperation_complexParts (v : Value) : IsOperation (complexParts v) := by
  unfold complexParts
  split <;> simp [lacks]

theorem isOperation_textOf (v : Value) : IsOperation (textOf v) := by
  unfold textOf
  split <;> simp [lacks]

theorem isOperation_plainOf (v : Value) : IsOperation (plainOf v) := by
  unfold plainOf
  split <;> simp

theorem isOperation_rowsOf (v : Value) : IsOperation (rowsOf v) := by
  unfold rowsOf
  split
  · simp
  · exact failsWithin_map.2 (isOperation_items? v)

theorem operational_row {rows : List (Except Fault (List Value))} (found : rowsOf v = .ok rows)
    (failed : .error f ∈ rows) : f.Operational := by
  unfold rowsOf at found
  split at found
  · cases found
    obtain ⟨row, -, made⟩ := List.mem_map.1 failed
    cases made
  · obtain ⟨items, -, rfl⟩ := map_eq_ok_iff.1 found
    obtain ⟨item, -, made⟩ := List.mem_map.1 failed
    exact isOperation_items? item f made

end

/-! ### Values and rules -/

section

variable {v : Value} {f : Fault}

theorem asRegistered_eq_error {r : Registry} (failed : asRegistered r v = .error f) :
    (∃ kind, f = .unsupportedKind kind) ∨ ∃ kind dimensions items,
      v.core = .array kind dimensions items true ∧ items.matrixRows? = .error f := by
  unfold asRegistered at failed
  split at failed
  · cases failed
  split at failed
  · rename_i kind dimensions items same
    split at failed
    · cases failed
    split at failed
    · exact .inr ⟨kind, dimensions, items, same, map_eq_error_iff.1 failed⟩
    · cases failed
      exact .inl ⟨_, rfl⟩
  · cases failed
    exact .inl ⟨_, rfl⟩

theorem Unfit.operational {rule : BuiltinRule} (unfit : Unfit v f rule) : f.Operational := by
  cases unfit with
  | notInteger failed => exact isOperation_toInteger? v f failed
  | notFloating failed => exact isOperation_toFloating? v f failed
  | unshown failed => exact isOperation_plainText? v f failed
  | noParts failed => exact isOperation_complexParts v f failed
  | notReplaced failed | notQuoted failed => exact isOperation_textOf v f failed
  | notPlain failed | noSource failed => exact isOperation_plainOf v f failed
  | noItems failed => exact isOperation_items? v f failed
  | noRows failed => exact isOperation_rowsOf v f failed
  | noRow found failed => exact operational_row found failed
  | noRatio _ failed | noPattern _ failed | noRange _ failed | noText _ failed
  | noLanguage _ failed =>
    subst failed
    rfl

theorem Limit.operational {c : Context} {rule : BuiltinRule} (limit : Limit v c f rule) :
    f.Operational := by
  cases limit with
  | digits _ failed => exact isOperation_integerText _ f failed
  | length _ _ failed =>
    subst failed
    rfl
  | fence _ failed => exact isOperation_repeated _ _ f failed
  | indentation _ _ _ _ failed => exact isOperation_repeated _ _ f failed

end

end Markup

end TypstMarkup
