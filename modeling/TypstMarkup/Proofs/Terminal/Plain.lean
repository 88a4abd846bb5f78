import Mathlib.Data.List.Infix
import Mathlib.Data.List.TakeWhile
import TypstMarkup.Terminal.Console

/-!
Codes in a text, and what is left of a text without them. Codes are dropped from left to right, each
as a whole, so a text stays as it is exactly if it holds none.
-/
namespace TypstMarkup.Terminal

/-! ### Codes -/

/-- A code: its opening, arguments and a letter. -/
def IsCode (text : List Char) : Prop :=
  ∃ arguments letter, text = '\x1b' :: '[' :: (arguments ++ [letter]) ∧
    (∀ c ∈ arguments, isCodeArgument c = true) ∧ letter.isAlpha = true

/-- A code stands somewhere in a text. -/
def HoldsCode (text : List Char) : Prop :=
  ∃ code, IsCode code ∧ code <:+: text

/-- Drops codes from left to right. What is kept may be the opening of a code that has no letter. -/
inductive Drops : List Char → List Char → Prop where
  | done : Drops [] []
  | code {code rest kept : List Char} (isCode : IsCode code) (tail : Drops rest kept) :
      Drops (code ++ rest) kept
  | keep {c : Char} {rest kept : List Char} (noCode : ∀ code, IsCode code → ¬ code <+: c :: rest)
      (tail : Drops rest kept) : Drops (c :: rest) (c :: kept)

theorem IsCode.ne_nil {code : List Char} (isCode : IsCode code) : code ≠ [] := by
  obtain ⟨_, _, rfl, -, -⟩ := isCode
  exact List.cons_ne_nil _ _

theorem isDigit_of_isAlpha {c : Char} (letter : c.isAlpha = true) : c.isDigit = false := by
  by_contra digit
  rw [Bool.not_eq_false] at digit
  have ends := Bool.and_eq_true_iff.1 digit
  have high : c.val ≤ '9'.val := of_decide_eq_true ends.2
  rcases Bool.or_eq_true_iff.1 letter with upper | lower
  · have low : 'A'.val ≤ c.val := (of_decide_eq_true upper).1
    exact absurd (UInt32.le_trans low high) (by decide)
  · have low : 'a'.val ≤ c.val := of_decide_eq_true (Bool.and_eq_true_iff.1 lower).1
    exact absurd (UInt32.le_trans low high) (by decide)

theorem isCodeArgument_of_isAlpha {c : Char} (letter : c.isAlpha = true) :
    isCodeArgument c = false := by
  have noMark : c ≠ ';' ∧ c ≠ '?' := by
    constructor <;> rintro rfl <;> cases letter
  simp [isCodeArgument, isDigit_of_isAlpha letter, noMark]

/-! ### The code that a text starts with -/

theorem codeLength?_of_code {code : List Char} (isCode : IsCode code) (rest : List Char) :
    codeLength? (code ++ rest) = some code.length := by
  obtain ⟨arguments, letter, rfl, all, alpha⟩ := isCode
  have span : (arguments ++ letter :: rest).takeWhile isCodeArgument = arguments := by
    rw [List.takeWhile_append_of_pos all, List.takeWhile_cons_of_neg, List.append_nil]
    simp [isCodeArgument_of_isAlpha alpha]
  simp [codeLength?, span, alpha]

theorem exists_code_of_codeLength? {text : List Char} {length : Nat}
    (found : codeLength? text = some length) :
    ∃ code rest, text = code ++ rest ∧ IsCode code ∧ code.length = length := by
  unfold codeLength? at found
  split at found
  · rename_i rest
    obtain ⟨behind, whole⟩ := List.takeWhile_prefix isCodeArgument (l := rest)
    have all : ∀ c ∈ rest.takeWhile isCodeArgument, isCodeArgument c = true := fun _ =>
      List.mem_takeWhile_imp
    generalize rest.takeWhile isCodeArgument = arguments at found whole all
    subst whole
    simp only [List.drop_left] at found
    split at found
    · rename_i letter after
      split at found
      · rename_i alpha
        cases found
        refine ⟨'\x1b' :: '[' :: (arguments ++ [letter]), after, by simp, ?_, by simp⟩
        exact ⟨arguments, letter, rfl, all, alpha⟩
      · cases found
    · cases found
  · cases found

theorem codeLength?_eq_none_iff {text : List Char} :
    codeLength? text = none ↔ ∀ code, IsCode code → ¬ code <+: text := by
  constructor
  · rintro none code isCode ⟨rest, rfl⟩
    rw [codeLength?_of_code isCode] at none
    cases none
  · intro noCode
    rw [Option.eq_none_iff_forall_ne_some]
    intro length found
    obtain ⟨code, rest, rfl, isCode, -⟩ := exists_code_of_codeLength? found
    exact noCode code isCode (List.prefix_append code rest)

/-! ### Texts without codes -/

theorem drops_plainFrom (skip : Nat) (text : List Char) (bound : skip ≤ text.length) :
    Drops (text.drop skip) (plainFrom skip text) := by
  fun_induction plainFrom skip text with
  | case1 skip =>
    rw [List.drop_nil]
    exact .done
  | case2 skip c rest ih => exact ih (by simpa using bound)
  | case3 c rest length found ih =>
    obtain ⟨code, behind, same, isCode, rfl⟩ := exists_code_of_codeLength? found
    have filled := List.length_pos_iff.2 isCode.ne_nil
    have size := congrArg List.length same
    simp only [List.length_cons, List.length_append] at size
    have after : rest.drop (code.length - 1) = behind := by
      have dropped := congrArg (List.drop code.length) same
      rwa [List.drop_left, ← Nat.sub_add_cancel filled, List.drop_succ_cons] at dropped
    have tail := ih (by omega)
    rw [after] at tail
    rw [List.drop_zero, same]
    exact .code isCode tail
  | case4 c rest none ih => exact .keep (codeLength?_eq_none_iff.1 none) (ih (Nat.zero_le _))

theorem drops_plain (text : List Char) : Drops text (plain text) :=
  drops_plainFrom 0 text (Nat.zero_le _)

theorem Drops.length_le {text kept : List Char} (drops : Drops text kept) :
    kept.length ≤ text.length := by
  induction drops with
  | done => exact Nat.le_refl _
  | code isCode tail ih =>
    rw [List.length_append]
    omega
  | keep noCode tail ih => exact Nat.succ_le_succ ih

theorem Drops.eq_iff {text kept : List Char} (drops : Drops text kept) :
    kept = text ↔ ¬ HoldsCode text := by
  induction drops with
  | done =>
    refine iff_of_true rfl ?_
    rintro ⟨code, isCode, inside⟩
    exact isCode.ne_nil (List.infix_nil.1 inside)
  | @code code rest kept isCode tail ih =>
    refine iff_of_false (fun same => ?_) fun free => ?_
    · have filled := List.length_pos_iff.2 isCode.ne_nil
      have shorter := tail.length_le
      rw [same, List.length_append] at shorter
      omega
    · exact free ⟨code, isCode, (List.prefix_append code rest).isInfix⟩
  | @keep c rest kept noCode tail ih =>
    rw [List.cons.injEq, ih]
    simp only [true_and, not_iff_not, HoldsCode, List.infix_cons_iff]
    constructor
    · rintro ⟨code, isCode, inside⟩
      exact ⟨code, isCode, .inr inside⟩
    · rintro ⟨code, isCode, starts | inside⟩
      · exact absurd starts (noCode code isCode)
      · exact ⟨code, isCode, inside⟩

theorem plain_eq_self_iff {text : List Char} : plain text = text ↔ ¬ HoldsCode text :=
  (drops_plain text).eq_iff

/-- A line feed ends no code. -/
theorem holdsCode_append_feed {text : List Char} :
    HoldsCode (text ++ ['\n']) ↔ HoldsCode text := by
  constructor
  · rintro ⟨code, isCode, inside⟩
    rcases List.infix_concat_iff.1 inside with ends | inside
    · obtain rfl | ⟨before, rfl, -⟩ := List.suffix_concat_iff.1 ends
      · exact absurd rfl isCode.ne_nil
      · obtain ⟨arguments, letter, same, -, alpha⟩ := isCode
        rw [← List.cons_append, ← List.cons_append] at same
        obtain ⟨-, last⟩ := List.append_inj' same rfl
        obtain rfl := List.singleton_inj.1 last
        cases alpha
    · exact ⟨code, isCode, inside⟩
  · rintro ⟨code, isCode, inside⟩
    exact ⟨code, isCode, inside.trans (List.prefix_append text _).isInfix⟩

end TypstMarkup.Terminal
