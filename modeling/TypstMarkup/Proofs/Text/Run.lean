import Mathlib.Data.List.Induction

/-!
Runs of backslashes at the end of a text. A character after a text is escaped where the run that
the text ends in is odd; whether a run is maximal is decided by the text alone.
-/
namespace TypstMarkup.Text

/-- The length of the maximal run of backslashes that a text ends in. -/
def trailingRun (text : List Char) : Nat :=
  (text.reverse.takeWhile (· == '\\')).length

@[simp] theorem trailingRun_nil : trailingRun [] = 0 := rfl

@[simp] theorem trailingRun_append_backslash (text : List Char) :
    trailingRun (text ++ ['\\']) = trailingRun text + 1 := by
  simp [trailingRun]

theorem trailingRun_append_other (text : List Char) {c : Char} (h : c ≠ '\\') :
    trailingRun (text ++ [c]) = 0 := by
  simp [trailingRun, h]

@[simp] theorem trailingRun_append_replicate (text : List Char) (count : Nat) :
    trailingRun (text ++ List.replicate count '\\') = trailingRun text + count := by
  induction count with
  | zero => simp
  | succ count ih =>
    rw [List.replicate_succ', ← List.append_assoc, trailingRun_append_backslash, ih]
    omega

/-- What stands before a character that is no backslash does not count. -/
theorem trailingRun_append_cons (text : List Char) {c : Char} (h : c ≠ '\\') (rest : List Char) :
    trailingRun (text ++ c :: rest) = trailingRun rest := by
  induction rest using List.reverseRecOn with
  | nil => exact trailingRun_append_other text h
  | append_singleton rest d ih =>
    have split : text ++ c :: (rest ++ [d]) = (text ++ c :: rest) ++ [d] := by simp
    rw [split]
    by_cases slash : d = '\\'
    · subst slash
      rw [trailingRun_append_backslash, trailingRun_append_backslash, ih]
    · rw [trailingRun_append_other _ slash, trailingRun_append_other _ slash]

/-- A text with a run at its end ends in a backslash. -/
theorem exists_of_trailingRun_eq_succ {text : List Char} {run : Nat}
    (ends : trailingRun text = run + 1) :
    ∃ before, text = before ++ ['\\'] ∧ trailingRun before = run := by
  cases text using List.reverseRecOn with
  | nil => simp at ends
  | append_singleton before c =>
    by_cases slash : c = '\\'
    · subst slash
      rw [trailingRun_append_backslash] at ends
      exact ⟨before, rfl, by omega⟩
    · rw [trailingRun_append_other before slash] at ends
      omega

end TypstMarkup.Text
