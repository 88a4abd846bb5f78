import TypstMarkup.Proofs.Value.Layout
import TypstMarkup.Value.Order

/-!
Operators and comparisons fail as operations do.
-/
namespace TypstMarkup

namespace Number

theorem isOperation_powFloats (x y : Binary64) : IsOperation (powFloats x y) := by
  unfold powFloats
  extract_lets overflow general
  have otherwise : IsOperation general := by
    dsimp only [general, overflow]
    split <;> simp
  split
  · simp [byZero]
  · split
    · split
      · dsimp only
        split <;> simp [overflow]
      · exact otherwise
    · exact otherwise

theorem isOperation_powInts (m n : Int) : IsOperation (powInts m n) := by
  unfold powInts
  split
  · simp
  · split
    · simp [byZero]
    · exact (isOperation_floatOfInt? m).bind fun _ _ => (isOperation_floatOfInt? n).bind
        fun _ _ => isOperation_powFloats _ _

theorem isOperation_powFraction (q : Rat) (n : Int) : IsOperation (powFraction q n) := by
  unfold powFraction
  split
  · simp
  · split <;> simp [byZero]

theorem isOperation_toFloat? (x : Number) : IsOperation x.toFloat? := by
  cases x with
  | int n => exact isOperation_floatOfInt? n
  | fraction q => exact isOperation_toFloating? (.fraction q)
  | float x => exact failsWithin_ok x
  | complex re im => exact failsWithin_ok re
  | decimal d => exact isOperation_toFloating? (.decimal d)

theorem isOperation_toComplex? (x : Number) : IsOperation x.toComplex? := by
  unfold toComplex?
  split
  · simp
  · exact failsWithin_map.2 (isOperation_toFloat? _)

section

variable {mismatch : Fault} (known : mismatch.Operational)

include known

theorem isOperation_onFloats (op : Operator) (x y : Binary64) :
    IsOperation (onFloats op x y mismatch) := by
  unfold onFloats
  split
  case h_4 | h_5 | h_6 => split <;> simp [byZero]
  case h_7 => exact isOperation_powFloats x y
  case h_8 => exact failsWithin_error.2 known
  all_goals simp

theorem isOperation_onInts (op : Operator) (m n : Int) : IsOperation (onInts op m n mismatch) := by
  unfold onInts
  split
  case h_4 =>
    split
    · simp [byZero]
    · split <;> simp
  case h_5 | h_6 => split <;> simp [byZero]
  case h_7 => exact isOperation_powInts m n
  case h_8 =>
    split
    · simp
    · split
      · simp
      · split <;> simp
  case h_9 =>
    split
    · simp
    · split <;> simp
  case h_13 => exact failsWithin_error.2 known
  all_goals simp

theorem isOperation_onFractions (op : Operator) (p q : Rat) :
    IsOperation (onFractions op p q mismatch) := by
  unfold onFractions
  split
  case h_4 | h_5 | h_6 => split <;> simp [byZero]
  case h_7 =>
    split
    · exact isOperation_powFraction p q.num
    · exact (isOperation_toFloating? _).bind fun _ _ => (isOperation_toFloating? _).bind
        fun _ _ => isOperation_powFloats _ _
  case h_8 => exact failsWithin_error.2 known
  all_goals simp

theorem isOperation_onComplexes (op : Operator) (a b c d : Binary64) :
    IsOperation (onComplexes op a b c d mismatch) := by
  unfold onComplexes
  split
  case h_4 => split <;> simp [byZero]
  case h_5 => exact failsWithin_error.2 known
  all_goals simp

theorem isOperation_onDecimals (op : Operator) (x y : Decimal) :
    IsOperation (onDecimals op x y mismatch) := by
  unfold onDecimals
  dsimp only
  split
  case h_4 => exact failsWithin_error.2 known
  all_goals split <;> simp

theorem isOperation_apply (op : Operator) (x y : Number) :
    IsOperation (apply op x y mismatch) := by
  unfold apply
  split
  · exact isOperation_onDecimals known _ _ _
  · exact isOperation_onDecimals known _ _ _
  · exact isOperation_onDecimals known _ _ _
  · exact failsWithin_error.2 known
  · exact failsWithin_error.2 known
  · exact (isOperation_toComplex? _).bind fun _ _ => (isOperation_toComplex? _).bind
      fun _ _ => isOperation_onComplexes known _ _ _ _ _
  · exact (isOperation_toComplex? _).bind fun _ _ => (isOperation_toComplex? _).bind
      fun _ _ => isOperation_onComplexes known _ _ _ _ _
  · exact (isOperation_toFloat? _).bind fun _ _ => (isOperation_toFloat? _).bind
      fun _ _ => isOperation_onFloats known _ _ _
  · exact (isOperation_toFloat? _).bind fun _ _ => (isOperation_toFloat? _).bind
      fun _ _ => isOperation_onFloats known _ _ _
  · exact isOperation_onInts known _ _ _
  · exact isOperation_onFractions known _ _ _
  · exact isOperation_onFractions known _ _ _
  · split
    · simp
    · exact isOperation_onFractions known _ _ _

end

end Number

namespace Value

/-! ### Sequences -/

theorem isOperation_repeatItems {α : Type} (items : List α) (count : Int) :
    IsOperation (repeatItems items count) := by
  unfold repeatItems
  split
  · simp
  · split
    · simp
    · split <;> simp

theorem isOperation_repeated? {sequence count : Value} {made : Except Fault Value}
    (found : repeated? sequence count = some made) : IsOperation made := by
  unfold repeated? at found
  split at found
  · dsimp only at found
    split at found
    · cases found
      exact failsWithin_map.2 (isOperation_repeatItems _ _)
    · cases found
      exact failsWithin_map.2 (isOperation_repeatItems _ _)
    · cases found
      exact failsWithin_map.2 (isOperation_repeatItems _ _)
    · split at found
      · cases found
        exact failsWithin_map.2 (isOperation_repeated _ _)
      · cases found
  · dsimp only at found
    split at found
    case h_4 =>
      split at found
      · cases found
        simp
      · cases found
    all_goals cases found; simp

theorem isOperation_joined? {v w : Value} {made : Except Fault Value}
    (found : joined? v w = some made) : IsOperation made := by
  unfold joined? at found
  dsimp only at found
  split at found
  · split at found <;> cases found <;> simp
  · split at found <;> cases found <;> simp
  · split at found <;> cases found <;> simp
  · split at found
    · split at found <;> cases found <;> simp
    · cases found
      simp
    · cases found

/-! ### Operators -/

theorem isOperation_operate (op : Operator) (v w : Value) : IsOperation (operate op v w) := by
  have mismatch : (Fault.operands op.sign v.kind w.kind).Operational := rfl
  unfold operate
  extract_lets mismatched others
  have othersFail : IsOperation others := by
    simp only [others]
    split
    · exact Number.isOperation_apply mismatch _ _ _
    · split
      · cases joined : joined? v w with
        | none => exact failsWithin_error.2 mismatch
        | some made => exact isOperation_joined? joined
      · split
        · rename_i repeats _
          exact isOperation_repeated? repeats
        · rename_i repeats
          split
          · rename_i instead
            exact isOperation_repeated? instead
          · exact isOperation_repeated? repeats
        · exact failsWithin_error.2 mismatch
      · split
        · exact failsWithin_map.2 (isOperation_filled? _ _)
        · exact failsWithin_error.2 mismatch
      · exact failsWithin_error.2 mismatch
  split
  · split
    case h_4 => exact othersFail
    all_goals simp
  · split
    case h_4 => exact othersFail
    all_goals simp
  · split
    · simp
    · exact othersFail
  · split
    · simp
    · exact othersFail
  · exact othersFail

theorem isOperation_negative (v : Value) : IsOperation v.negative := by
  unfold negative
  split <;> simp [noUnary]

theorem isOperation_positive (v : Value) : IsOperation v.positive := by
  unfold positive
  split <;> simp [noUnary]

theorem isOperation_complement (v : Value) : IsOperation v.complement := by
  unfold complement
  split <;> simp [noUnary]

theorem isOperation_absolute (v : Value) : IsOperation v.absolute := by
  unfold absolute
  split
  case h_5 =>
    split
    · exact Number.isOperation_powFloats _ _
    · simp
  all_goals simp

/-! ### Comparisons -/

mutual

theorem isOperation_compare? (c : Comparison) : (v w : Value) → IsOperation (compare? c v w)
  | v, w => by
    rw [compare?.eq_def]
    dsimp only
    split
    · exact isOperation_compareAll? c _ _
    · exact isOperation_compareAll? c _ _
    · simp
    · split
      · split
        · simp
        · split <;> simp
      · split
        · simp
        · split <;> simp

theorem isOperation_compareAll? (c : Comparison) :
    (vs ws : List Value) → IsOperation (compareAll? c vs ws)
  | [], [] | [], _ :: _ | _ :: _, [] => by simp [compareAll?]
  | v :: vs, w :: ws => by
    rw [compareAll?]
    split
    · exact isOperation_compareAll? c vs ws
    · exact isOperation_compare? c v w

end

end Value

end TypstMarkup
