import Mathlib.Data.List.TakeWhile
import Mathlib.Data.Nat.Digits.Defs
import TypstMarkup.Text.Case
import TypstMarkup.Value.Conversion

/-!
Digits of all scripts. They share no character with blanks or with the characters whose upper-case
form differs, so a text of digits stays the same when blanks are dropped around it and when it is
put in upper case. Such a text is read as an integer exactly if its digits are decimal and not too
many.
-/
namespace TypstMarkup.Text

/-! ### Classes of characters -/

/-- Whether no range of one list meets a range of another. -/
def apart (rs ss : List (Nat × Nat)) : Bool :=
  rs.all fun r => ss.all fun s => r.2 < s.1 || s.2 < r.1

theorem inRanges_eq_false_of_apart {rs ss : List (Nat × Nat)} (different : apart rs ss = true)
    {point : Nat} (inside : inRanges rs point = true) : inRanges ss point = false := by
  obtain ⟨r, listed, bounds⟩ := List.any_eq_true.1 inside
  refine List.any_eq_false.2 fun s other => ?_
  have separate := List.all_eq_true.1 (List.all_eq_true.1 different r listed) s other
  simp only [Bool.and_eq_true, Bool.or_eq_true, decide_eq_true_eq] at bounds separate ⊢
  omega

/-- Closed ranges of all digits. -/
def digitRanges : List (Nat × Nat) :=
  (zeroDigits.map fun first => (first, first + 9)) ++ otherDigitRanges

theorem inRanges_of_decimalValue? {c : Char} (decimal : (decimalValue? c).isSome = true) :
    inRanges (zeroDigits.map fun first => (first, first + 9)) c.toNat = true := by
  have within {first : Nat} (listed : first ∈ zeroDigits) (lower : first ≤ c.toNat)
      (upper : c.toNat ≤ first + 9) :
      inRanges (zeroDigits.map fun first => (first, first + 9)) c.toNat = true := by
    refine List.any_eq_true.2 ⟨(first, first + 9), List.mem_map_of_mem listed, ?_⟩
    simp [lower, upper]
  rw [decimalValue?] at decimal
  split at decimal
  · split at decimal
    · rename_i ascii
      rw [Char.isDigit, Bool.and_eq_true, decide_eq_true_eq, decide_eq_true_eq] at ascii
      have listed : 0x30 ∈ zeroDigits := by decide
      exact within listed ascii.1 ascii.2
    · cases decimal
  · rw [Option.isSome_map, List.find?_isSome] at decimal
    obtain ⟨first, listed, bounds⟩ := decimal
    rw [Bool.and_eq_true, decide_eq_true_eq, decide_eq_true_eq] at bounds
    exact within listed bounds.1 (by omega)

theorem inRanges_of_isDigit {c : Char} (digit : isDigit c = true) :
    inRanges digitRanges c.toNat = true := by
  rw [digitRanges, inRanges, List.any_append, Bool.or_eq_true]
  rw [isDigit, Bool.or_eq_true] at digit
  exact digit.imp inRanges_of_decimalValue? id

/-- Digits lie in no range that is apart from all of theirs. -/
theorem inRanges_eq_false_of_isDigit {c : Char} (digit : isDigit c = true)
    {ranges : List (Nat × Nat)} (different : apart digitRanges ranges = true) :
    inRanges ranges c.toNat = false :=
  inRanges_eq_false_of_apart different (inRanges_of_isDigit digit)

theorem isBlank_of_isDigit {c : Char} (digit : isDigit c = true) : isBlank c = false :=
  inRanges_eq_false_of_isDigit digit (by decide)

theorem inRanges_of_isUpper {c : Char} (capital : c.isUpper = true) :
    inRanges [(0x41, 0x5a)] c.toNat = true := by
  have bounds : 'A'.val ≤ c.val ∧ c.val ≤ 'Z'.val := of_decide_eq_true capital
  have lower : 0x41 ≤ c.toNat := bounds.1
  have upper : c.toNat ≤ 0x5a := bounds.2
  simp [inRanges, lower, upper]

theorem isUpper_of_isDigit {c : Char} (digit : isDigit c = true) : c.isUpper = false := by
  rw [Bool.eq_false_iff]
  intro capital
  have outside : inRanges [(0x41, 0x5a)] c.toNat = false :=
    inRanges_eq_false_of_isDigit digit (by decide)
  rw [inRanges_of_isUpper capital] at outside
  cases outside

/-! ### Upper case -/

/-- What holds of all ASCII codes holds of all ASCII characters. -/
theorem forall_ascii {P : Char → Prop} (codes : ∀ n < 128, P (Char.ofNat n)) {c : Char}
    (ascii : c.toNat < 128) : P c := by
  have holds := codes c.toNat ascii
  rwa [Char.ofNat_toNat] at holds

theorem toUpper_eq_self {c : Char} (beyond : 128 ≤ c.toNat) : c.toUpper = c := by
  refine dif_neg fun bounds => ?_
  have last : c.toNat ≤ 0x7a := bounds.2
  omega

/-- Closed ranges of the characters that have an upper-case form other than themselves. -/
def mappedRanges : List (Nat × Nat) :=
  [(0x61, 0x7a), (0xdf, 0xdf), (0x131, 0x131), (0x17f, 0x17f), (0xfb00, 0xfb06)]

/-- A character keeps its form, or its upper-case form is made of capital letters. -/
theorem upperChar_cases (c : Char) :
    upperChar c = [c] ∨
      inRanges mappedRanges c.toNat = true ∧ upperChar c ≠ [] ∧
        ∀ d ∈ upperChar c, d.isUpper = true := by
  unfold upperChar
  split
  case h_11 =>
    rcases Nat.lt_or_ge c.toNat 128 with ascii | beyond
    · have both := forall_ascii (P := fun c => c.toUpper = c ∨
        inRanges mappedRanges c.toNat = true ∧ c.toUpper.isUpper = true) (by decide) ascii
      simpa using both
    · exact .inl (by rw [toUpper_eq_self beyond])
  all_goals
    rename_i mapped
    exact .inr ⟨by rw [mapped]; rfl, by decide, List.all_eq_true.1 (by decide)⟩

theorem upperChar_ne_nil (c : Char) : upperChar c ≠ [] := by
  rcases upperChar_cases c with kept | ⟨-, filled, -⟩
  · rw [kept]
    exact List.cons_ne_nil _ _
  · exact filled

theorem upperChar_of_isDigit {c : Char} (digit : isDigit c = true) : upperChar c = [c] := by
  rcases upperChar_cases c with kept | ⟨mapped, -, -⟩
  · exact kept
  · rw [inRanges_eq_false_of_isDigit digit (by decide)] at mapped
    cases mapped

/-- No other character has an upper-case form that holds a digit. -/
theorem isDigit_of_upperChar {c : Char} (digits : ∀ d ∈ upperChar c, isDigit d = true) :
    isDigit c = true := by
  rcases upperChar_cases c with kept | ⟨-, filled, capitals⟩
  · exact digits c (kept ▸ List.mem_cons_self)
  · obtain ⟨d, listed⟩ := List.exists_mem_of_ne_nil _ filled
    have capital := capitals d listed
    rw [isUpper_of_isDigit (digits d listed)] at capital
    cases capital

theorem upper_eq_self {text : List Char} (digits : ∀ c ∈ text, isDigit c = true) :
    upper text = text := by
  induction text with
  | nil => rfl
  | cons c rest ih =>
    rw [List.forall_mem_cons] at digits
    rw [upper, List.flatMap_cons, ← upper, ih digits.2, upperChar_of_isDigit digits.1]
    rfl

theorem upper_eq_nil {text : List Char} : upper text = [] ↔ text = [] := by
  cases text with
  | nil => exact iff_of_true rfl rfl
  | cons c rest => simp [upper, upperChar_ne_nil]

theorem forall_isDigit_upper {text : List Char} :
    (∀ c ∈ upper text, isDigit c = true) ↔ ∀ c ∈ text, isDigit c = true := by
  refine ⟨fun digits c listed => isDigit_of_upperChar fun d mapped => ?_, fun digits => ?_⟩
  · exact digits d (List.mem_flatMap.2 ⟨c, listed, mapped⟩)
  · rwa [upper_eq_self digits]

/-! ### Integers -/

/-- The decimal digits that a text starts with. -/
def decimalRun (text : List Char) : List Char :=
  text.takeWhile fun c => (decimalValue? c).isSome

theorem decimalRun_eq_self {text : List Char}
    (decimal : ∀ c ∈ text, (decimalValue? c).isSome = true) : decimalRun text = text :=
  List.takeWhile_eq_self_iff.2 decimal

/-- A number as it is written in decimal digits, the most significant one first. -/
def IsWritten (text : List Char) (n : Nat) : Prop :=
  ∃ digits, List.Forall₂ (fun c d => decimalValue? c = some d) text digits ∧
    n = Nat.ofDigits 10 digits.reverse

theorem foldl_decimalValue? {text : List Char} {digits : List Nat}
    (values : List.Forall₂ (fun c d => decimalValue? c = some d) text digits) (total : Nat) :
    text.foldl (fun total c => do return (← total) * 10 + (← decimalValue? c)) (some total) =
      some (total * 10 ^ digits.length + Nat.ofDigits 10 digits.reverse) := by
  induction values generalizing total with
  | nil => simp
  | @cons c d rest digits value values ih =>
    rw [List.foldl_cons]
    have step : (do return (← some total) * 10 + (← decimalValue? c) : Option Nat) =
        some (total * 10 + d) := by
      rw [value]
      rfl
    rw [step, ih, List.reverse_cons, Nat.ofDigits_append, List.length_reverse,
      Nat.ofDigits_singleton, List.length_cons, Nat.pow_succ]
    congr 1
    ring

theorem decimalNumber?_eq_some {text : List Char} {n : Nat} (filled : text ≠ [])
    (written : IsWritten text n) : decimalNumber? text = some n := by
  obtain ⟨digits, values, rfl⟩ := written
  rw [decimalNumber?, if_neg (by simpa using filled), foldl_decimalValue? values]
  simp

theorem exists_isWritten {text : List Char}
    (decimal : ∀ c ∈ text, (decimalValue? c).isSome = true) : ∃ n, IsWritten text n := by
  have values : ∃ digits, List.Forall₂ (fun c d => decimalValue? c = some d) text digits := by
    induction text with
    | nil => exact ⟨[], .nil⟩
    | cons c rest ih =>
      rw [List.forall_mem_cons] at decimal
      obtain ⟨d, value⟩ := Option.isSome_iff_exists.1 decimal.1
      obtain ⟨digits, values⟩ := ih decimal.2
      exact ⟨d :: digits, .cons value values⟩
  obtain ⟨digits, values⟩ := values
  exact ⟨_, digits, values, rfl⟩

theorem IsWritten.decimal {text : List Char} {n : Nat} (written : IsWritten text n) :
    ∀ c ∈ text, (decimalValue? c).isSome = true := by
  obtain ⟨digits, values, -⟩ := written
  induction values with
  | nil => nofun
  | cons value _ ih =>
    rw [List.forall_mem_cons]
    exact ⟨by rw [value]; rfl, ih⟩

theorem splitDigits_eq {text : List Char} (plain : '_' ∉ text) (afterDigit : Bool) :
    splitDigits afterDigit text =
      some (decimalRun text, text.dropWhile fun c => (decimalValue? c).isSome) := by
  induction text generalizing afterDigit with
  | nil => rfl
  | cons c rest ih =>
    rw [List.mem_cons, not_or] at plain
    rw [splitDigits, decimalRun, ih plain.2]
    by_cases decimal : (decimalValue? c).isSome = true
    · simp [decimal, decimalRun]
    · simp [decimal, Ne.symm plain.1]

/-- Nothing is dropped around a text of digits. -/
theorem stripNumber_eq_self {text : List Char} (digits : ∀ c ∈ text, isDigit c = true) :
    stripNumber text = text := by
  have kept {text : List Char} (digits : ∀ c ∈ text, isDigit c = true) :
      text.dropWhile isNumberBlank = text := by
    cases text with
    | nil => rfl
    | cons c rest =>
      have solid : isNumberBlank c = false := by
        rw [isNumberBlank, isBlank_of_isDigit (digits c List.mem_cons_self), Bool.false_and]
      exact List.dropWhile_cons_of_neg (by rw [solid]; exact Bool.false_ne_true)
  rw [stripNumber, kept digits, kept fun c listed => digits c (List.mem_reverse.1 listed),
    List.reverse_reverse]

/-- A text of digits is read as an integer exactly if they are all decimal, unless too many decimal
ones come first. -/
theorem readInteger?_of_isDigit {text : List Char} (digits : ∀ c ∈ text, isDigit c = true) :
    readInteger? text =
      if 4300 < (decimalRun text).length then .error (.tooManyDigitsToRead (decimalRun text).length)
      else if text.all fun c => (decimalValue? c).isSome then
        .ok ((decimalNumber? text).map Int.ofNat)
      else .ok none := by
  have other {d : Char} (letter : isDigit d = false) : d ∉ text := by
    intro listed
    rw [digits d listed] at letter
    cases letter
  have unsigned : readSign text = (false, text) := by
    unfold readSign
    split
    · exact absurd List.mem_cons_self (other (d := '-') (by decide))
    · exact absurd List.mem_cons_self (other (d := '+') (by decide))
    · rfl
  rw [readInteger?, stripNumber_eq_self digits, unsigned]
  dsimp only
  rw [splitDigits_eq (other (by decide))]
  by_cases decimal : ∀ c ∈ text, (decimalValue? c).isSome = true
  · have rest : text.dropWhile (fun c => (decimalValue? c).isSome) = [] :=
      List.dropWhile_eq_nil_iff.2 decimal
    rw [if_pos (List.all_eq_true.2 decimal), rest, decimalRun_eq_self decimal]
    rfl
  · have rest : text.dropWhile (fun c => (decimalValue? c).isSome) ≠ [] :=
      fun empty => decimal (List.dropWhile_eq_nil_iff.1 empty)
    rw [if_neg (mt List.all_eq_true.1 decimal)]
    simp [rest]

end TypstMarkup.Text
