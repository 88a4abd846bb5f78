import TypstMarkup.Toml.Word
import TypstMarkup.Proofs.Toml.Written

/-!
Numbers as they are written. The text of a number starts with a digit, a minus or one of the words
for numbers, and an integer that is short enough to be written reads as a number.
-/
namespace TypstMarkup.Toml

/-! ### How numbers start -/

/-- A text may start a number: with a digit, a minus, or as one of the words for numbers. -/
def StartsNumber (text : List Char) : Prop :=
  (∃ c more, text = c :: more ∧ (c.isDigit = true ∨ c = '-')) ∨ text = ['i', 'n', 'f'] ∨
    text = ['n', 'a', 'n']

theorem exists_cons_digitText (n : Nat) :
    ∃ c more, Binary64.digitText n = c :: more ∧ c.isDigit = true := by
  have filled : Binary64.digitText n ≠ [] := by
    rw [Binary64.digitText, Nat.toString_eq_repr, Nat.toList_repr]
    exact Nat.toDigits_ne_nil
  obtain ⟨c, more, shape⟩ := List.exists_cons_of_ne_nil filled
  exact ⟨c, more, shape, isDigit_of_mem_digitText (by rw [shape]; exact List.mem_cons_self)⟩

theorem startsNumber_integer (n : Int) : StartsNumber (toString n).toList := by
  left
  rw [Int.toString_eq_repr, Int.repr_eq_if]
  split
  · obtain ⟨c, more, shape, digit⟩ := exists_cons_digitText n.toNat
    exact ⟨c, more, shape, .inl digit⟩
  · exact ⟨'-', _, by rw [String.toList_append]; rfl, .inr rfl⟩

theorem exists_cons_positional {c : Char} (digit : c.isDigit = true) (more : List Char)
    (point : Int) :
    ∃ d rest, Binary64.positional true (c :: more) point = d :: rest ∧ d.isDigit = true := by
  unfold Binary64.positional
  split
  · exact ⟨'0', _, rfl, rfl⟩
  split
  · exact ⟨c, _, rfl, digit⟩
  · rename_i positive _
    obtain ⟨place, rfl⟩ := Int.eq_succ_of_zero_lt (Int.not_le.1 positive)
    exact ⟨c, _, rfl, digit⟩

theorem exists_cons_magnitudeText (significand : Nat) (exponent : Int) :
    ∃ c more, Binary64.magnitudeText true significand exponent = c :: more ∧ c.isDigit = true := by
  obtain ⟨c, more, shape, digit⟩ :=
    exists_cons_digitText (Binary64.shortest significand exponent).digits
  unfold Binary64.magnitudeText
  dsimp only
  rw [shape]
  split
  · exact exists_cons_positional digit more _
  · cases more with
    | nil => exact ⟨c, _, rfl, digit⟩
    | cons d rest => exact ⟨c, _, rfl, digit⟩

theorem startsNumber_float (x : Binary64) : StartsNumber (x.written true) := by
  cases x with
  | finite negative significand exponent =>
    left
    rw [Binary64.written]
    obtain ⟨c, more, shape, digit⟩ := exists_cons_magnitudeText significand exponent
    cases negative with
    | false => exact ⟨c, more, shape, .inl digit⟩
    | true => exact ⟨'-', _, rfl, .inr rfl⟩
  | infinite negative =>
    cases negative with
    | false => exact .inr (.inl rfl)
    | true => exact .inl ⟨'-', _, rfl, .inr rfl⟩
  | nan _ => exact .inr (.inr rfl)

/-! ### Integers -/

theorem strip_bare {key : List Char} (bare : ∀ c ∈ key, isBareChar c = true) (count : Nat) :
    Text.strip (key ++ List.replicate count ' ') = key := by
  cases key with
  | nil =>
    rw [List.nil_append, Text.strip, List.dropWhile_replicate, if_pos (by decide)]
    rfl
  | cons c key =>
    have first : ¬Text.isBlank c = true := by
      rw [isBlank_of_isBareChar (bare c List.mem_cons_self)]
      exact Bool.false_ne_true
    have blanks : ∀ c ∈ List.replicate count ' ', Text.isBlank c = true := by
      intro c member
      rw [List.eq_of_mem_replicate member]
      decide
    obtain ⟨last, others, shape⟩ := List.exists_cons_of_ne_nil
      (l := (c :: key).reverse) (by simp)
    have listed : last ∈ c :: key := by
      rw [← List.mem_reverse, shape]
      exact List.mem_cons_self
    have back : ¬Text.isBlank last = true := by
      rw [isBlank_of_isBareChar (bare last listed)]
      exact Bool.false_ne_true
    rw [Text.strip, List.cons_append, List.dropWhile_cons_of_neg first, ← List.cons_append,
      List.reverse_append, List.reverse_replicate, List.dropWhile_append_of_pos blanks, shape,
      List.dropWhile_cons_of_neg back, ← shape, List.reverse_reverse]

theorem exists_digitChar {c : Char} (digit : c.isDigit = true) :
    ∃ n < 10, c = Nat.digitChar n := by
  have codes : ∀ n < 128, (Char.ofNat n).isDigit = true →
      ∃ m < 10, Char.ofNat n = Nat.digitChar m := by decide
  have small : c.toNat < 128 := by
    have range := toNat_of_isAlphanum (c := c) (by rw [Char.isAlphanum, digit, Bool.or_true])
    omega
  have found := codes c.toNat small
  rw [Char.ofNat_toNat] at found
  exact found digit

section

variable {digits : List Char} (all : ∀ c ∈ digits, c.isDigit = true)

include all

theorem joinDigits_eq (p : Char → Bool) (inNumber : Bool) :
    joinDigits p inNumber digits = digits := by
  induction digits generalizing inNumber with
  | nil => rw [joinDigits]
  | cons c rest ih =>
    rw [List.forall_mem_cons] at all
    have noJoint : c ≠ '_' := by
      rintro rfl
      cases all.1
    rw [joinDigits, ih all.2]
    intro _ _ _ same
    exact absurd same noJoint

theorem lower_eq : Text.lower digits = digits := by
  have letters : ∀ n < 10, Text.lowerChar (Nat.digitChar n) = Nat.digitChar n := by decide
  have same : ∀ c ∈ digits, Text.lowerChar c = id c := by
    intro c member
    obtain ⟨n, bound, rfl⟩ := exists_digitChar (all c member)
    exact letters n bound
  rw [Text.lower, List.map_congr_left same, List.map_id]

theorem continue?_isSome (filled : digits ≠ []) (total : Nat) :
    (Based.continue? 10 false total digits).isSome = true := by
  have values : ∀ n < 10, Based.digitValue? (Nat.digitChar n) = some n := by decide
  have joints : ∀ n < 10, Nat.digitChar n ≠ '_' := by decide
  have onward (afterDigit : Bool) (total : Nat) (ready : digits = [] → afterDigit = true) :
      (Based.continue? 10 afterDigit total digits).isSome = true := by
    clear filled
    induction digits generalizing afterDigit total with
    | nil =>
      rw [ready rfl]
      rfl
    | cons c rest ih =>
      rw [List.forall_mem_cons] at all
      obtain ⟨n, bound, rfl⟩ := exists_digitChar all.1
      rw [Based.continue?, values n bound]
      · dsimp only
        rw [if_pos bound]
        exact ih all.2 true _ fun _ => rfl
      · exact joints n bound
  exact onward false total fun none => absurd none filled

end

/-- Digits are no more than a number may have, and none but a single zero starts with a zero. -/
structure IsTidy (digits : List Char) : Prop where
  ne_nil : digits ≠ []
  isDigit : ∀ c ∈ digits, c.isDigit = true
  length : digits.length ≤ Based.mostDigits
  leading : ∀ c more, digits ≠ '0' :: c :: more

theorem head?_toDigits {n : Nat} (positive : 0 < n) : (Nat.toDigits 10 n).head? ≠ some '0' := by
  induction n using Nat.strongRecOn with
  | ind n ih =>
    rcases Nat.lt_or_ge n 10 with small | large
    · rw [Nat.toDigits_of_lt_base small]
      have digits : ∀ n < 10, 0 < n → Nat.digitChar n ≠ '0' := by decide
      simpa using digits n small positive
    · have shorter := ih (n / 10) (by omega) (by omega)
      rw [Nat.toDigits_of_base_le (by decide) large]
      cases before : Nat.toDigits 10 (n / 10) with
      | nil => exact absurd before Nat.toDigits_ne_nil
      | cons c more =>
        rw [before] at shorter
        exact shorter

theorem length_toDigits_le {n count : Nat} (filled : 0 < count) (short : n < tenTo count) :
    (Nat.toDigits 10 n).length ≤ count := by
  rw [tenTo, Nat.pow_eq] at short
  exact (Nat.length_toDigits_le_iff (by decide) filled).2 short

theorem isTidy_digitText {n : Nat} (short : n < tenTo Based.mostDigits) :
    IsTidy (Binary64.digitText n) := by
  have same : Binary64.digitText n = Nat.toDigits 10 n := by
    rw [Binary64.digitText, Nat.toString_eq_repr, Nat.toList_repr]
  refine ⟨?_, fun c => isDigit_of_mem_digitText, ?_, fun c more shape => ?_⟩
  · rw [same]
    exact Nat.toDigits_ne_nil
  · rw [same]
    exact length_toDigits_le (by decide) short
  · rw [same] at shape
    rcases Nat.eq_zero_or_pos n with rfl | positive
    · cases shape
    · have first := head?_toDigits positive
      rw [shape] at first
      exact first rfl

section

variable {digits : List Char} (tidy : IsTidy digits)

include tidy

theorem baseOf_eq_ten : baseOf digits = 10 := by
  unfold baseOf
  split
  · exact absurd rfl (tidy.leading _ _)
  · exact absurd rfl (tidy.leading _ _)
  · exact absurd rfl (tidy.leading _ _)
  · rfl

theorem unsigned?_isSome : (Based.unsigned? 10 digits).isSome = true := by
  have read : (Based.digits? 10 digits).isSome = true := by
    have count : digits.countP (fun c => c != '_') ≤ Based.mostDigits :=
      Nat.le_trans List.countP_le_length tidy.length
    rw [Based.digits?, if_neg (by simpa using count)]
    exact continue?_isSome tidy.isDigit tidy.ne_nil 0
  unfold Based.unsigned?
  split
  · exact read
  · exact read
  · rename_i zero letter rest
    have plain : Based.announced? letter = none := by
      have letters : ∀ n < 10, Based.announced? (Nat.digitChar n) = none := by decide
      obtain ⟨n, bound, rfl⟩ := exists_digitChar (tidy.isDigit letter (by simp))
      exact letters n bound
    rw [plain, if_neg (by simp)]
    exact read

theorem ofText?_isSome :
    (Based.ofText? 10 digits).isSome = true ∧ (Based.ofText? 10 ('-' :: digits)).isSome = true := by
  have bare : ∀ c ∈ '-' :: digits, isBareChar c = true := by
    rw [List.forall_mem_cons]
    refine ⟨by decide, fun c member => ?_⟩
    rw [isBareChar, Char.isAlphanum, tidy.isDigit c member, Bool.or_true, Bool.true_or,
      Bool.true_or]
  have strip {text : List Char} (bare : ∀ c ∈ text, isBareChar c = true) :
      Text.strip text = text := by
    have stripped := strip_bare bare 0
    rwa [List.replicate_zero, List.append_nil] at stripped
  obtain ⟨n, read⟩ := Option.isSome_iff_exists.1 (unsigned?_isSome tidy)
  constructor
  · rw [Based.ofText?, Based.signed?, strip (List.forall_mem_cons.1 bare).2]
    split
    · cases tidy.isDigit '-' List.mem_cons_self
    · cases tidy.isDigit '+' List.mem_cons_self
    · rw [read]
      rfl
  · rw [Based.ofText?, Based.signed?, strip bare]
    simp only [read]
    rfl

theorem notMem_of_isDigit {d : Char} (letter : d.isDigit = false) : d ∉ digits := by
  intro member
  rw [tidy.isDigit d member] at letter
  cases letter

theorem units_eq : digits.takeWhile (· != 'e') = digits := by
  have kept : (digits ++ []).takeWhile (· != 'e') = digits ++ [].takeWhile (· != 'e') := by
    apply List.takeWhile_append_of_pos
    intro c member
    rw [bne_iff_ne]
    rintro rfl
    exact notMem_of_isDigit tidy rfl member
  rwa [List.append_nil, List.takeWhile_nil, List.append_nil] at kept

theorem startsAsNumber_tidy (signed : Bool) : startsAsNumber signed digits = true := by
  unfold startsAsNumber
  split
  · exact absurd rfl (tidy.leading _ _)
  · cases tidy.isDigit '.' List.mem_cons_self
  · rfl

theorem contains_eq_false : digits.contains '_' = false := by
  rw [← Bool.not_eq_true, List.contains_iff_mem]
  exact notMem_of_isDigit tidy rfl

theorem getLast?_ne_point : (digits.getLast? != some '.') = true := by
  rw [bne_iff_ne]
  intro last
  exact notMem_of_isDigit tidy rfl (List.mem_of_getLast? last)

/-- Tidy digits are a number, with and without a minus. -/
theorem isNumber_digits : isNumber digits = true ∧ isNumber ('-' :: digits) = true := by
  have lowered : Text.lower (joinDigits (isDigitIn 10) false digits) = digits := by
    rw [joinDigits_eq tidy.isDigit, lower_eq tidy.isDigit]
  have base := baseOf_eq_ten tidy
  have start := startsAsNumber_tidy tidy
  obtain ⟨plain, negative⟩ := ofText?_isSome tidy
  constructor
  · unfold isNumber
    split
    rename_i sign unsigned split
    have parts : (sign, unsigned) = ([], digits) := by
      rw [← split]
      split
      · cases tidy.isDigit '+' List.mem_cons_self
      · cases tidy.isDigit '-' List.mem_cons_self
      · rfl
    cases parts
    simp only [base, lowered, start, units_eq tidy, contains_eq_false tidy, getLast?_ne_point tidy]
    simpa using Or.inl plain
  · unfold isNumber
    split
    rename_i sign unsigned split
    have parts : (sign, unsigned) = (['-'], digits) := by
      rw [← split]
      rfl
    cases parts
    simp only [base, lowered, start, units_eq tidy, contains_eq_false tidy, getLast?_ne_point tidy]
    simpa using Or.inl negative

end

/-- An integer that is not too long to be written reads as a number. -/
theorem isNumber_integer {n : Int} (short : (Value.int n).overlong = false) :
    isNumber (toString n).toList = true := by
  have bound : n.natAbs < tenTo Based.mostDigits := by
    rw [Value.overlong, overlong, decide_eq_false_iff_not] at short
    exact Nat.not_le.1 short
  rw [Int.toString_eq_repr, Int.repr_eq_if]
  split
  · refine (isNumber_digits (isTidy_digitText ?_)).1
    omega
  · rw [String.toList_append]
    refine (isNumber_digits (isTidy_digitText ?_)).2
    omega

/-- A value whose text is read as a number, if it is one. -/
def IsWorded : Node → Prop
  | .integer n => isNumber (toString n).toList = true
  | .float x => isNumber (x.written true) = true
  | _ => True

end TypstMarkup.Toml
