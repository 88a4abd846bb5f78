import TypstMarkup.Expression.Lexer

/-!
What numbers are written with. A number takes characters of names, points and signs from the front
of a source, whichever of its forms it has; so it never takes a quote or a bracket.
-/
namespace TypstMarkup.Expression

/-- Characters that numbers are written with. -/
def IsNumberChar (c : Char) : Prop := isNameChar c = true ∨ c = '.' ∨ c = '+' ∨ c = '-'

/-- What is left of a source behind characters of a number. -/
def Spent (source rest : List Char) : Prop :=
  ∃ used, source = used ++ rest ∧ ∀ c ∈ used, IsNumberChar c

theorem Spent.refl (source : List Char) : Spent source source := ⟨[], rfl, by simp⟩

theorem Spent.cons {c : Char} {source rest : List Char} (first : IsNumberChar c)
    (spent : Spent source rest) : Spent (c :: source) rest := by
  obtain ⟨used, rfl, allowed⟩ := spent
  refine ⟨c :: used, rfl, fun d member => ?_⟩
  rcases List.mem_cons.1 member with rfl | member
  · exact first
  · exact allowed d member

theorem Spent.trans {source mid rest : List Char} (first : Spent source mid)
    (next : Spent mid rest) : Spent source rest := by
  obtain ⟨used, rfl, allowed⟩ := first
  obtain ⟨more, rfl, allowedMore⟩ := next
  refine ⟨used ++ more, by simp, fun c member => ?_⟩
  rcases List.mem_append.1 member with member | member
  · exact allowed c member
  · exact allowedMore c member

theorem isNameChar_of_isDigit {c : Char} (digit : c.isDigit = true) : isNameChar c = true := by
  simp [isNameChar, Char.isAlphanum, digit]

theorem isNameChar_of_isAlpha {c : Char} (letter : c.isAlpha = true) : isNameChar c = true := by
  simp [isNameChar, Char.isAlphanum, letter]

theorem isNameChar_of_hexValue? {c : Char} (digit : (hexValue? c).isSome = true) :
    isNameChar c = true := by
  unfold hexValue? at digit
  split at digit
  · exact isNameChar_of_isDigit ‹_›
  refine isNameChar_of_isAlpha ?_
  change (c.isUpper || c.isLower) = true
  rw [Bool.or_eq_true]
  split at digit
  · rename_i lower
    rw [Bool.and_eq_true, decide_eq_true_eq, decide_eq_true_eq] at lower
    right
    change (decide ('a' ≤ c) && decide (c ≤ 'z')) = true
    rw [Bool.and_eq_true, decide_eq_true_eq, decide_eq_true_eq]
    exact ⟨lower.1, Nat.le_trans lower.2 (by decide)⟩
  split at digit
  · rename_i upper
    rw [Bool.and_eq_true, decide_eq_true_eq, decide_eq_true_eq] at upper
    left
    exact decide_eq_true ⟨upper.1, Nat.le_trans upper.2 (by decide)⟩
  · cases digit

theorem spent_digitRun {isDigit : Char → Bool}
    (digits : ∀ c, isDigit c = true → isNameChar c = true) {needed : Bool}
    {source found rest : List Char}
    (read : digitRun isDigit needed source = some (found, rest)) : Spent source rest := by
  fun_induction digitRun isDigit needed source generalizing found rest with
  | case1 => cases read
  | case2 => cases read; exact .refl []
  | case3 needed c source digit ih =>
    obtain ⟨⟨more, behind⟩, tail, same⟩ := Option.map_eq_some_iff.1 read
    cases same
    exact .cons (.inl (digits c digit)) (ih tail)
  | case4 => cases read
  | case5 needed source noDigit unneeded ih => exact .cons (.inl (by decide)) (ih read)
  | case6 => cases read; exact .refl _

theorem spent_readExponentPart {source : List Char} {exponent : Int} {rest : List Char}
    (read : readExponentPart source = some (some (exponent, rest))) : Spent source rest := by
  unfold readExponentPart at read
  split at read
  · rename_i e source
    split at read
    · rename_i mark
      have letter : IsNumberChar e := by
        simp at mark
        rcases mark with rfl | rfl <;> exact .inl (by decide)
      split at read
      · obtain ⟨⟨digits, behind⟩, run, same⟩ := Option.bind_eq_some_iff.1 read
        cases same
        exact .cons letter (.cons (.inr (.inr (.inl rfl)))
          (spent_digitRun (fun _ => isNameChar_of_isDigit) run))
      · obtain ⟨⟨digits, behind⟩, run, same⟩ := Option.bind_eq_some_iff.1 read
        cases same
        exact .cons letter (.cons (.inr (.inr (.inr rfl)))
          (spent_digitRun (fun _ => isNameChar_of_isDigit) run))
      · split at read
        · obtain ⟨⟨digits, behind⟩, run, same⟩ := Option.bind_eq_some_iff.1 read
          cases same
          exact .cons letter (spent_digitRun (fun _ => isNameChar_of_isDigit) run)
        · cases read
      · cases read
    · cases read
  · cases read

theorem spent_finishFloat {digits source rest : List Char} {exponent : Int} {v : Value}
    (read : finishFloat digits exponent source = some (v, rest)) : Spent source rest := by
  unfold finishFloat at read
  dsimp only at read
  split at read
  · split at read
    · rename_i mark
      split at read
      · cases read
        simp at mark
        refine .cons ?_ (.refl _)
        rcases mark with rfl | rfl <;> exact .inl (by decide)
      · cases read
    split at read
    · cases read; exact .refl _
    · cases read
  · cases read; exact .refl _

theorem spent_exponent {mid rest : List Char} {v : Value}
    {next : Option (Int × List Char) → Option (Value × List Char)}
    (read : readExponentPart mid >>= next = some (v, rest))
    (some : ∀ exponent behind, next (some (exponent, behind)) = some (v, rest) →
      Spent behind rest)
    (none : next none = Option.some (v, rest) → Spent mid rest) : Spent mid rest := by
  obtain ⟨found, runExponent, read⟩ := Option.bind_eq_some_iff.1 read
  match found with
  | .none => exact none read
  | .some (exponent, behind) =>
    exact (spent_readExponentPart runExponent).trans (some exponent behind read)

theorem spent_readDecimal {source rest : List Char} {v : Value}
    (read : readDecimal source = some (v, rest)) : Spent source rest := by
  have digits {source found rest : List Char}
      (read : digitRun Char.isDigit true source = some (found, rest)) : Spent source rest :=
    spent_digitRun (fun _ => isNameChar_of_isDigit) read
  unfold readDecimal at read
  extract_lets finish at read
  have spentFinish {whole mid : List Char} (read : finish (whole, mid) = some (v, rest)) :
      Spent mid rest := by
    dsimp only [finish] at read
    split at read
    · refine .cons (.inr (.inl rfl)) ?_
      split at read
      · split at read
        · obtain ⟨⟨part, behind⟩, runPart, read⟩ := Option.bind_eq_some_iff.1 read
          exact (digits runPart).trans
            (spent_exponent read (fun _ _ => spent_finishFloat) spent_finishFloat)
        · exact spent_exponent read (fun _ _ => spent_finishFloat) spent_finishFloat
      · obtain ⟨_, same, read⟩ := Option.bind_eq_some_iff.1 read
        cases same
        exact spent_exponent read (fun _ _ => spent_finishFloat) spent_finishFloat
    · refine spent_exponent read (fun _ _ => spent_finishFloat) fun read => ?_
      dsimp only at read
      split at read
      · exact spent_finishFloat read
      · exact spent_finishFloat read
      · obtain ⟨_, -, read⟩ := Option.bind_eq_some_iff.1 read
        obtain ⟨_, -, read⟩ := Option.bind_eq_some_iff.1 read
        obtain ⟨_, -, same⟩ := Option.bind_eq_some_iff.1 read
        cases same
        exact .refl _
  split at read
  · exact spentFinish read
  · obtain ⟨⟨whole, mid⟩, runWhole, read⟩ := Option.bind_eq_some_iff.1 read
    exact (digits runWhole).trans (spentFinish read)

theorem spent_readBased {base : Nat} {isDigit : Char → Bool} {source rest : List Char} {v : Value}
    (digits : ∀ c, isDigit c = true → isNameChar c = true)
    (read : readBased base isDigit source = some (v, rest)) : Spent source rest := by
  unfold readBased at read
  dsimp only at read
  obtain ⟨⟨found, behind⟩, run, read⟩ := Option.bind_eq_some_iff.1 read
  obtain ⟨_, -, same⟩ := Option.bind_eq_some_iff.1 read
  cases same
  have spent := spent_digitRun digits run
  split at spent
  · exact .cons (.inl (by decide)) spent
  · exact spent

theorem spent_readNumber {source rest : List Char} {v : Value}
    (read : readNumber source = some (v, rest)) : Spent source rest := by
  have zero : IsNumberChar '0' := .inl (by decide)
  unfold readNumber at read
  split at read
  · rename_i c source
    split at read
    · rename_i mark
      refine .cons zero (.cons (.inl ?_) (spent_readBased (fun _ => isNameChar_of_hexValue?) read))
      simp at mark
      rcases mark with rfl | rfl <;> decide
    split at read
    · rename_i mark
      refine .cons zero (.cons (.inl ?_) (spent_readBased (fun d octal => ?_) read))
      · simp at mark
        rcases mark with rfl | rfl <;> decide
      · refine isNameChar_of_isDigit ?_
        rw [Bool.and_eq_true, decide_eq_true_eq, decide_eq_true_eq] at octal
        simp only [Char.isDigit, Bool.and_eq_true, decide_eq_true_eq]
        exact ⟨octal.1, Nat.le_trans octal.2 (by decide)⟩
    split at read
    · rename_i mark
      refine .cons zero (.cons (.inl ?_) (spent_readBased (fun d binary => ?_) read))
      · simp at mark
        rcases mark with rfl | rfl <;> decide
      · rw [Bool.or_eq_true, beq_iff_eq, beq_iff_eq] at binary
        rcases binary with rfl | rfl <;> decide
    · exact spent_readDecimal read
  · exact spent_readDecimal read

end TypstMarkup.Expression
