import TypstMarkup.Text.Quoted

/-!
Hexadecimal digits of a number: as many as asked for, each the digit of a number below sixteen.
-/
namespace TypstMarkup.Text

theorem length_hexDigits (width n : Nat) : (hexDigits width n).length = width := by
  induction width generalizing n with
  | zero => rfl
  | succ width ih => simp [hexDigits, ih]

theorem exists_digit_of_mem_hexDigits {c : Char} {width n : Nat} (member : c ∈ hexDigits width n) :
    ∃ d < 16, c = Nat.digitChar d := by
  induction width generalizing n with
  | zero => cases member
  | succ width ih =>
    rcases List.mem_append.1 member with before | last
    · exact ih before
    · exact ⟨n % 16, Nat.mod_lt _ (by decide), by simpa using last⟩

end TypstMarkup.Text
