import TypstMarkup.Log.Level
import TypstMarkup.Proofs.OrderedMap
import TypstMarkup.Proofs.Success
import TypstMarkup.Proofs.Text.Spelling

/-!
Levels as they are given by texts. A text that spells a name in any case denotes the level of that
name, one of decimal digits denotes their number, and any other that has not only digits denotes no
level. What is left are texts of digits that are no number, because some are not decimal or because
there are too many: reading them fails.
-/
namespace TypstMarkup.Log.Level

open Text

/-- What a text without blanks around it denotes: a level, or none. -/
inductive Denotes (text : List Char) : Option Level → Prop
  | name {name : String} {level : Level} (known : (name, level) ∈ names)
      (spelled : Spells name.toList text) : Denotes text (some level)
  | number {n : Nat} (filled : text ≠ []) (written : IsWritten text n)
      (short : text.length ≤ 4300) : Denotes text (some (n : Int))
  | nothing (unknown : ∀ entry ∈ names, ¬Spells entry.1.toList text)
      (other : text = [] ∨ ∃ c ∈ text, isDigit c = false) : Denotes text none

/-- The failure that a text of digits which is no number leads to. The decimal digits at its front
are counted first. -/
inductive Breaks (text : List Char) : Fault → Prop
  | tooLong (digits : ∀ c ∈ text, isDigit c = true) (long : 4300 < (decimalRun text).length) :
      Breaks text (.tooManyDigitsToRead (decimalRun text).length)
  | notDecimal (digits : ∀ c ∈ text, isDigit c = true) (short : (decimalRun text).length ≤ 4300)
      {c : Char} (listed : c ∈ text) (other : decimalValue? c = none) :
      Breaks text (.notANumber (String.ofList (quoted text)))

/-- A text of digits that is no number. -/
structure Unreadable (text : List Char) : Prop where
  digits : ∀ c ∈ text, isDigit c = true
  noNumber : (∃ c ∈ text, decimalValue? c = none) ∨ 4300 < text.length

/-- The empty text breaks nothing. -/
theorem Breaks.filled {text : List Char} {f : Fault} (breaks : Breaks text f) : text ≠ [] := by
  rintro rfl
  cases breaks with
  | tooLong digits long => exact absurd long (by decide)
  | notDecimal digits short listed other => cases listed

theorem exists_breaks_iff {text : List Char} : (∃ f, Breaks text f) ↔ Unreadable text := by
  constructor
  · rintro ⟨f, ⟨digits, long⟩ | ⟨digits, -, listed, other⟩⟩
    · exact ⟨digits, .inr (long.trans_le (List.takeWhile_sublist _).length_le)⟩
    · exact ⟨digits, .inl ⟨_, listed, other⟩⟩
  · rintro ⟨digits, noNumber⟩
    rcases Nat.lt_or_ge 4300 (decimalRun text).length with long | short
    · exact ⟨_, .tooLong digits long⟩
    · rcases noNumber with ⟨c, listed, other⟩ | long
      · exact ⟨_, .notDecimal digits short listed other⟩
      · by_cases decimal : ∀ c ∈ text, (decimalValue? c).isSome = true
        · rw [decimalRun_eq_self decimal] at short
          omega
        · push Not at decimal
          obtain ⟨c, listed, other⟩ := decimal
          exact ⟨_, .notDecimal digits short listed (by simpa using other)⟩

/-! ### Names -/

theorem isPlainWord_of_mem {entry : String × Level} (known : entry ∈ names) :
    IsPlainWord entry.1.toList := by
  have capitals : ∀ entry ∈ names, entry.1.toList.all Char.isUpper = true := by decide
  have single : ∀ entry ∈ names, entry.1.toList.IsChain fun c d => (c, d) ∉ doubles := by decide
  exact ⟨List.all_eq_true.1 (capitals entry known), single entry known⟩

theorem distinct_names : (names.map Prod.fst).Nodup := by
  decide

/-- The level that is looked up for a text in upper case. -/
theorem find?_names_eq_some_iff {token : List Char} {level : Level} :
    (names.find? fun entry => entry.1.toList == token).map Prod.snd = some level ↔
      ∃ name, (name, level) ∈ names ∧ name.toList = token := by
  have same : (fun entry : String × Level => entry.1.toList == token) =
      fun entry => entry.1 == String.ofList token := by
    funext entry
    rw [Bool.eq_iff_iff, beq_iff_eq, beq_iff_eq, ← String.toList_inj, String.toList_ofList]
  constructor
  · intro found
    obtain ⟨⟨name, _⟩, first, rfl⟩ := Option.map_eq_some_iff.1 found
    exact ⟨name, List.mem_of_find?_eq_some first, by simpa using List.find?_some first⟩
  · rintro ⟨name, known, rfl⟩
    rw [same, String.ofList_toList, OrderedMap.find?_of_mem distinct_names known]
    rfl

/-- A text has no name in upper case unless it spells one. -/
theorem find?_names_upper_eq_none_iff {text : List Char} :
    (names.find? fun entry => entry.1.toList == upper text).map Prod.snd = none ↔
      ∀ entry ∈ names, ¬Spells entry.1.toList text := by
  rw [Option.map_eq_none_iff, List.find?_eq_none]
  refine forall₂_congr fun entry known => ?_
  rw [beq_iff_eq, eq_comm, upper_eq_iff_spells (isPlainWord_of_mem known)]

theorem find?_names_upper_eq_some_iff {text : List Char} {level : Level} :
    (names.find? fun entry => entry.1.toList == upper text).map Prod.snd = some level ↔
      ∃ name, (name, level) ∈ names ∧ Spells name.toList text := by
  rw [find?_names_eq_some_iff]
  refine exists_congr fun name => and_congr_right fun known => ?_
  rw [eq_comm, upper_eq_iff_spells (isPlainWord_of_mem known)]

/-- A text that spells a name has anything but digits. -/
theorem not_spells_of_digits {text : List Char} (digits : ∀ c ∈ text, isDigit c = true)
    {entry : String × Level} (known : entry ∈ names) : ¬Spells entry.1.toList text := by
  intro spelled
  have plain := isPlainWord_of_mem known
  have filled : ∀ entry ∈ names, entry.1.toList ≠ [] := by decide
  rw [← upper_eq_iff_spells plain, upper_eq_self digits] at spelled
  obtain ⟨c, listed⟩ := List.exists_mem_of_ne_nil _ (filled entry known)
  have capital := plain.capitals c listed
  rw [isUpper_of_isDigit (digits c (spelled ▸ listed))] at capital
  cases capital

/-! ### Reading -/

theorem ofText?_of_digits {text : List Char} (filled : strip text ≠ [])
    (digits : ∀ c ∈ strip text, isDigit c = true) :
    ofText? text =
      if 4300 < (decimalRun (strip text)).length then
        .error (.tooManyDigitsToRead (decimalRun (strip text)).length)
      else if (strip text).all fun c => (decimalValue? c).isSome then
        .ok ((decimalNumber? (strip text)).map Int.ofNat)
      else .error (.notANumber (String.ofList (quoted (strip text)))) := by
  have guarded : (!(strip text).isEmpty && (strip text).all isDigit) = true := by
    rw [Bool.and_eq_true, Bool.not_eq_true', List.isEmpty_eq_false_iff, List.all_eq_true]
    exact ⟨filled, digits⟩
  rw [ofText?, upper_eq_self digits, if_pos guarded, readInteger?_of_isDigit digits]
  split
  · rfl
  · split
    · rename_i decimal
      obtain ⟨n, written⟩ := exists_isWritten (List.all_eq_true.1 decimal)
      rw [decimalNumber?_eq_some filled written]
      rfl
    · rfl

theorem ofText?_of_other {text : List Char}
    (other : strip text = [] ∨ ∃ c ∈ strip text, isDigit c = false) :
    ofText? text =
      .ok ((names.find? fun entry => entry.1.toList == upper (strip text)).map Prod.snd) := by
  have passed : ¬(!(upper (strip text)).isEmpty && (upper (strip text)).all isDigit) = true := by
    rw [Bool.and_eq_true, Bool.not_eq_true', List.isEmpty_eq_false_iff, List.all_eq_true,
      forall_isDigit_upper, Ne, upper_eq_nil]
    rintro ⟨filled, digits⟩
    obtain empty | ⟨c, listed, letter⟩ := other
    · exact filled empty
    · rw [digits c listed] at letter
      cases letter
  rw [ofText?, if_neg passed]
  rfl

/-- A text is read as what it denotes. -/
theorem ofText?_of_denotes {text : List Char} {found : Option Level}
    (denotes : Denotes (strip text) found) : ofText? text = .ok found := by
  cases denotes with
  | name known spelled =>
    have other : strip text = [] ∨ ∃ c ∈ strip text, isDigit c = false := by
      by_contra digits
      push Not at digits
      exact not_spells_of_digits (by simpa using digits.2) known spelled
    rw [ofText?_of_other other, find?_names_upper_eq_some_iff.2 ⟨_, known, spelled⟩]
  | number filled written short =>
    have decimal := written.decimal
    have digits : ∀ c ∈ strip text, isDigit c = true := fun c listed => by
      rw [isDigit, decimal c listed, Bool.true_or]
    rw [ofText?_of_digits filled digits, decimalRun_eq_self decimal, if_neg (by omega),
      if_pos (List.all_eq_true.2 decimal), decimalNumber?_eq_some filled written]
    rfl
  | nothing unknown other =>
    rw [ofText?_of_other other, find?_names_upper_eq_none_iff.2 unknown]

theorem ofText?_of_breaks {text : List Char} {f : Fault} (breaks : Breaks (strip text) f) :
    ofText? text = .error f := by
  have filled := breaks.filled
  cases breaks with
  | tooLong digits long => rw [ofText?_of_digits filled digits, if_pos long]
  | notDecimal digits short listed other =>
    have mixed : ¬∀ c ∈ strip text, (decimalValue? c).isSome = true := fun decimal => by
      simpa [other] using decimal _ listed
    rw [ofText?_of_digits filled digits, if_neg (by omega), if_neg (mt List.all_eq_true.1 mixed)]

/-- Every text denotes a level or none, or leads to a failure. -/
theorem denotes_or_breaks (text : List Char) :
    (∃ found, Denotes text found) ∨ ∃ f, Breaks text f := by
  by_cases other : text = [] ∨ ∃ c ∈ text, isDigit c = false
  · left
    by_cases unknown : ∀ entry ∈ names, ¬Spells entry.1.toList text
    · exact ⟨none, .nothing unknown other⟩
    · push Not at unknown
      obtain ⟨entry, known, spelled⟩ := unknown
      exact ⟨some entry.2, .name known spelled⟩
  · push Not at other
    obtain ⟨filled, digits⟩ := other
    have digits : ∀ c ∈ text, isDigit c = true := by simpa using digits
    by_cases unreadable : Unreadable text
    · exact .inr (exists_breaks_iff.2 unreadable)
    · left
      have decimal : ∀ c ∈ text, (decimalValue? c).isSome = true := fun c listed => by
        rw [Option.isSome_iff_ne_none]
        exact fun other => unreadable ⟨digits, .inl ⟨c, listed, other⟩⟩
      have short : text.length ≤ 4300 :=
        Nat.le_of_not_lt fun long => unreadable ⟨digits, .inr long⟩
      obtain ⟨n, written⟩ := exists_isWritten decimal
      exact ⟨some n, .number filled written short⟩

theorem ofText?_eq_ok_iff {text : List Char} {found : Option Level} :
    ofText? text = .ok found ↔ Denotes (strip text) found := by
  refine ⟨fun read => ?_, ofText?_of_denotes⟩
  obtain ⟨other, denotes⟩ | ⟨f, breaks⟩ := denotes_or_breaks (strip text)
  · obtain rfl : other = found := Except.ok.inj ((ofText?_of_denotes denotes).symm.trans read)
    exact denotes
  · cases (ofText?_of_breaks breaks).symm.trans read

theorem ofText?_eq_error_iff {text : List Char} {f : Fault} :
    ofText? text = .error f ↔ Breaks (strip text) f := by
  refine ⟨fun failed => ?_, ofText?_of_breaks⟩
  obtain ⟨found, denotes⟩ | ⟨other, breaks⟩ := denotes_or_breaks (strip text)
  · cases (ofText?_of_denotes denotes).symm.trans failed
  · obtain rfl : other = f := Except.error.inj ((ofText?_of_breaks breaks).symm.trans failed)
    exact breaks

/-- Nothing but a text of digits that is no number makes reading fail. -/
theorem exists_ofText?_eq_ok_iff {text : List Char} :
    (∃ found, ofText? text = .ok found) ↔ ¬Unreadable (strip text) := by
  rw [← exists_breaks_iff]
  cases read : ofText? text with
  | error f =>
    exact iff_of_false (by rintro ⟨_, ⟨⟩⟩) (not_not.2 ⟨f, ofText?_eq_error_iff.1 read⟩)
  | ok found =>
    refine iff_of_true ⟨found, rfl⟩ ?_
    rintro ⟨f, breaks⟩
    cases read.symm.trans (ofText?_of_breaks breaks)

end TypstMarkup.Log.Level
