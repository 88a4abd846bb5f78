import TypstMarkup.Proofs.Template.Uncommented
import TypstMarkup.Proofs.Text.Hexadecimal

/-!
Quoted text read back. A character is written in one of three ways. All of them stand for that
character alone, and in none of them does the lexer find the end of the text or of the line. So a
quoted text is one lexeme, which ends at its last quote, also between the brackets of calls.
-/
namespace TypstMarkup.Expression

open Text (hexDigits length_hexDigits exists_digit_of_mem_hexDigits escapePoint quotedChar
  isPrintable)
open Template (isQuote quote_ne singleBody_cons)

/-! ### Hexadecimal digits -/

theorem hexValue?_digitChar : ∀ n < 16, hexValue? (Nat.digitChar n) = some n := by
  decide

/-- The last digits of a number stand for its remainder. -/
theorem numberIn_hexDigits (width n : Nat) :
    numberIn 16 (hexDigits width n) = n % twoTo (4 * width) := by
  induction width generalizing n with
  | zero => simp [numberIn, hexDigits, Nat.mod_one]
  | succ width ih =>
    have last : hexValue? (Nat.digitChar (n % 16)) = some (n % 16) :=
      hexValue?_digitChar _ (Nat.mod_lt _ (by decide))
    have before := ih (n / 16)
    have bits : twoTo (4 * (width + 1)) = 16 * twoTo (4 * width) := by
      rw [Nat.mul_succ, twoTo_succ, twoTo_succ, twoTo_succ, twoTo_succ]
      omega
    rw [numberIn] at before
    rw [numberIn, hexDigits, List.foldl_append, before, List.foldl_cons, List.foldl_nil, last,
      Option.getD_some, bits, Nat.mod_mul]
    omega

theorem hexEscape?_hexDigits {width n : Nat} (fits : n < twoTo (4 * width)) (rest : List Char) :
    hexEscape? width (hexDigits width n ++ rest) = some (n, rest) := by
  have taken : (hexDigits width n ++ rest).take width = hexDigits width n :=
    List.take_left' (length_hexDigits width n)
  have dropped : (hexDigits width n ++ rest).drop width = rest :=
    List.drop_left' (length_hexDigits width n)
  have digits : (hexDigits width n).all (fun d => (hexValue? d).isSome) = true := by
    rw [List.all_eq_true]
    intro c member
    obtain ⟨d, bound, rfl⟩ := exists_digit_of_mem_hexDigits member
    rw [hexValue?_digitChar d bound]
    rfl
  rw [hexEscape?, taken, dropped, numberIn_hexDigits, Nat.mod_eq_of_lt fits]
  simp [length_hexDigits, digits]

theorem toNat_valid (c : Char) : c.toNat < 0xd800 ∨ 0xdfff < c.toNat ∧ c.toNat < 0x110000 :=
  c.valid

theorem charAt?_toNat (c : Char) : charAt? c.toNat = some c := by
  have valid := toNat_valid c
  unfold charAt?
  rw [if_neg (by omega), if_neg (by simp; omega), Char.ofNat_toNat]

/-! ### Ways to write a character -/

/-- A character that does not end a line and that a source may hold. -/
def InLine (c : Char) : Prop := c ≠ '\n' ∧ c ≠ '\r' ∧ c ≠ '\x00'

instance (c : Char) : Decidable (InLine c) :=
  inferInstanceAs (Decidable (c ≠ '\n' ∧ c ≠ '\r' ∧ c ≠ '\x00'))

/-- How a character may be written between quotes: as itself, as a short escape, or by its code
point. -/
inductive Written (quote c : Char) : List Char → Prop where
  | plain (noSlash : c ≠ '\\') (noQuote : c ≠ quote) (inLine : InLine c) : Written quote c [c]
  | escaped {d : Char} (stands : simpleEscape? d = some c) (inLine : InLine d) :
      Written quote c ['\\', d]
  | point {letter : Char} {width : Nat} (known : (letter, width) ∈ [('x', 2), ('u', 4), ('U', 8)])
      (fits : c.toNat < twoTo (4 * width)) :
      Written quote c ('\\' :: letter :: hexDigits width c.toNat)

theorem inLine_of_all {text : List Char} (holds : text.all (InLine ·) = true) :
    ∀ c ∈ text, InLine c :=
  fun c member => of_decide_eq_true (List.all_eq_true.1 holds c member)

theorem inLine_of_isPrintable {c : Char} (printable : isPrintable c = true) : InLine c := by
  refine ⟨?_, ?_, ?_⟩ <;>
    · rintro rfl
      revert printable
      decide

theorem written_escapePoint (quote c : Char) : Written quote c (escapePoint c.toNat) := by
  have valid := toNat_valid c
  unfold escapePoint
  split
  · rename_i small
    exact .point (by decide) small
  · split
    · rename_i middle
      exact .point (by decide) middle
    · have large : c.toNat < 0x100000000 := by omega
      exact .point (by decide) large

theorem eq_of_isQuote {quote : Char} (quoted : isQuote quote = true) :
    quote = '\'' ∨ quote = '"' := by
  simpa [isQuote] using quoted

theorem written_quotedChar {quote : Char} (quoted : isQuote quote = true) (c : Char) :
    Written quote c (quotedChar quote c) := by
  unfold quotedChar
  split
  · rename_i special
    have special : c = quote ∨ c = '\\' := by simpa using special
    rcases special with rfl | rfl
    · rcases eq_of_isQuote quoted with rfl | rfl
      · exact .escaped rfl (by decide)
      · exact .escaped rfl (by decide)
    · exact .escaped rfl (by decide)
  rename_i other
  have other : c ≠ quote ∧ c ≠ '\\' := by simpa using other
  by_cases tab : c = '\t'
  · subst tab
    exact .escaped rfl (by decide)
  by_cases feed : c = '\n'
  · subst feed
    exact .escaped rfl (by decide)
  by_cases back : c = '\r'
  · subst back
    exact .escaped rfl (by decide)
  simp only [beq_iff_eq, tab, feed, back, ↓reduceIte]
  split
  · rename_i printable
    exact .plain other.2 other.1 (inLine_of_isPrintable printable)
  · exact written_escapePoint quote c

section

variable {quote c : Char} {w : List Char}

theorem Written.inLine (written : Written quote c w) : ∀ d ∈ w, InLine d := by
  cases written with
  | plain noSlash noQuote inLine => simpa using inLine
  | escaped stands inLine => simpa using ⟨by decide, inLine⟩
  | @point letter width known fits =>
    have letters : ∀ entry ∈ [('x', 2), ('u', 4), ('U', 8)], InLine entry.1 := by decide
    have digits : ∀ d < 16, InLine (Nat.digitChar d) := by decide
    intro d member
    rcases List.mem_cons.1 member with rfl | member
    · decide
    rcases List.mem_cons.1 member with rfl | member
    · exact letters _ known
    · obtain ⟨n, bound, rfl⟩ := exists_digit_of_mem_hexDigits member
      exact digits n bound

/-- The quote does not start what a character is written as. -/
theorem Written.exists_cons (written : Written quote c w) (quoted : isQuote quote = true) :
    ∃ d more, w = d :: more ∧ d ≠ quote := by
  cases written with
  | plain noSlash noQuote inLine => exact ⟨c, [], rfl, noQuote⟩
  | escaped stands inLine => exact ⟨'\\', _, rfl, (quote_ne quoted (by decide)).symm⟩
  | point known fits => exact ⟨'\\', _, rfl, (quote_ne quoted (by decide)).symm⟩

theorem singleBody_append {used : List Char}
    (letters : ∀ c ∈ used, c ≠ '\\' ∧ c ≠ quote ∧ c ≠ '\n') (rest : List Char) :
    singleBody quote (used ++ rest) = (singleBody quote rest).map fun r => (used ++ r.1, r.2) := by
  induction used with
  | nil => exact Option.map_id'.symm
  | cons c used ih =>
    obtain ⟨noSlash, noQuote, noFeed⟩ := letters c List.mem_cons_self
    rw [List.cons_append, singleBody_cons noSlash, if_neg noQuote, if_neg noFeed,
      ih fun d member => letters d (List.mem_cons_of_mem c member), Option.map_map]
    rfl

/-- The lexer passes over what a character is written as. -/
theorem Written.singleBody_append (written : Written quote c w) (quoted : isQuote quote = true)
    (rest : List Char) :
    singleBody quote (w ++ rest) = (singleBody quote rest).map fun r => (w ++ r.1, r.2) := by
  cases written with
  | plain noSlash noQuote inLine =>
    exact Expression.singleBody_append (by simpa using ⟨noSlash, noQuote, inLine.1⟩) rest
  | escaped stands inLine => rfl
  | @point letter width known fits =>
    have digits : ∀ d < 16, Nat.digitChar d ≠ '\\' ∧ isQuote (Nat.digitChar d) = false ∧
        Nat.digitChar d ≠ '\n' := by decide
    have letters : ∀ d ∈ hexDigits width c.toNat, d ≠ '\\' ∧ d ≠ quote ∧ d ≠ '\n' := by
      intro d member
      obtain ⟨n, bound, rfl⟩ := exists_digit_of_mem_hexDigits member
      obtain ⟨noSlash, noQuote, noFeed⟩ := digits n bound
      exact ⟨noSlash, (quote_ne quoted noQuote).symm, noFeed⟩
    rw [List.cons_append, List.cons_append, singleBody, Expression.singleBody_append letters,
      Option.map_map]
    rfl

/-- What a character is written as stands for it. -/
theorem Written.decodeText_append (written : Written quote c w) (fuel : Nat) (rest : List Char) :
    decodeText (fuel + 1) (w ++ rest) = (decodeText fuel rest).map (c :: ·) := by
  cases written with
  | plain noSlash noQuote inLine =>
    rw [List.singleton_append, decodeText]
    exact fun _ _ slash => absurd slash noSlash
  | @escaped d stands inLine =>
    unfold simpleEscape? at stands
    split at stands <;> cases stands <;> rfl
  | @point letter width known fits =>
    have known : (letter = 'x' ∧ width = 2) ∨ (letter = 'u' ∧ width = 4) ∨
        (letter = 'U' ∧ width = 8) := by simpa using known
    have escape : decodeText (fuel + 1) ('\\' :: letter :: (hexDigits width c.toNat ++ rest)) =
        (hexEscape? width (hexDigits width c.toNat ++ rest)).bind fun read =>
          (charAt? read.1).bind fun d => (decodeText fuel read.2).bind fun more =>
            some (d :: more) := by
      rcases known with ⟨rfl, rfl⟩ | ⟨rfl, rfl⟩ | ⟨rfl, rfl⟩ <;> rfl
    rw [List.cons_append, List.cons_append, escape, hexEscape?_hexDigits fits, Option.bind_some,
      charAt?_toNat, Option.bind_some]
    exact Option.map_eq_bind.symm

end

/-! ### Texts -/

section

variable {quote : Char} (quoted : isQuote quote = true) (text : List Char)
include quoted

theorem inLine_of_mem_quotedText : ∀ c ∈ text.flatMap (quotedChar quote), InLine c := by
  intro c member
  obtain ⟨d, -, among⟩ := List.mem_flatMap.1 member
  exact (written_quotedChar quoted d).inLine c among

theorem singleBody_quotedText (rest : List Char) :
    singleBody quote (text.flatMap (quotedChar quote) ++ quote :: rest) =
      some (text.flatMap (quotedChar quote), rest) := by
  induction text with
  | nil =>
    rw [List.flatMap_nil, List.nil_append, singleBody_cons (quote_ne quoted (by decide)),
      if_pos rfl]
  | cons c text ih =>
    have passed := (written_quotedChar quoted c).singleBody_append quoted
    rw [List.flatMap_cons, List.append_assoc, passed, ih]
    rfl

/-- The lexer finds the end of a quoted text. -/
theorem readBody_quotedText {rest : List Char} (apart : rest.head? ≠ some quote) :
    readBody quote (text.flatMap (quotedChar quote) ++ quote :: rest) =
      some (text.flatMap (quotedChar quote), rest) := by
  have single := singleBody_quotedText quoted text rest
  cases text with
  | nil =>
    -- Two quotes without a third one are an empty text.
    cases rest with
    | nil => exact single
    | cons b rest =>
      have other : b ≠ quote := by simpa using apart
      simp [readBody, other]
  | cons c text =>
    obtain ⟨d, more, same, other⟩ := (written_quotedChar quoted c).exists_cons quoted
    rw [← single, List.flatMap_cons, same, List.cons_append, List.cons_append]
    cases (more ++ text.flatMap (quotedChar quote)) ++ quote :: rest with
    | nil => rfl
    | cons e source => simp [readBody, other]

/-- The escapes of a quoted text stand for the text. -/
theorem decodeText_quotedText {fuel : Nat} (enough : text.length ≤ fuel) :
    decodeText fuel (text.flatMap (quotedChar quote)) = some text := by
  induction text generalizing fuel with
  | nil => cases fuel <;> rfl
  | cons c text ih =>
    obtain ⟨budget, rfl⟩ := Nat.exists_eq_add_of_le' (Nat.le_trans (Nat.le_add_left 1 _) enough)
    rw [List.flatMap_cons, (written_quotedChar quoted c).decodeText_append,
      ih (Nat.le_of_succ_le_succ enough)]
    rfl

theorem length_le_quotedText : text.length ≤ (text.flatMap (quotedChar quote)).length := by
  induction text with
  | nil => exact Nat.le_refl 0
  | cons c text ih =>
    obtain ⟨d, more, same, -⟩ := (written_quotedChar quoted c).exists_cons quoted
    rw [List.flatMap_cons, same, List.length_append, List.length_cons, List.length_cons]
    omega

theorem textToken?_quotedText :
    textToken? {} (text.flatMap (quotedChar quote)) = some (.text text) := by
  have decoded := decodeText_quotedText quoted text (length_le_quotedText quoted text)
  change (decodeText _ _).map Token.text = _
  rw [decoded]
  rfl

end

theorem isQuote_quoteFor (text : List Char) : isQuote (Text.quoteFor text) = true := by
  unfold Text.quoteFor
  split <;> rfl

theorem inLine_of_mem_quoted (text : List Char) : ∀ c ∈ Text.quoted text, InLine c := by
  have quoted := isQuote_quoteFor text
  have quote : InLine (Text.quoteFor text) := by
    rcases eq_of_isQuote quoted with same | same <;>
      · rw [same]
        decide
  intro c member
  have among : c = Text.quoteFor text ∨ c ∈ text.flatMap (quotedChar (Text.quoteFor text)) := by
    simpa [Text.quoted, or_comm] using member
  rcases among with rfl | inside
  · exact quote
  · exact inLine_of_mem_quotedText quoted text c inside

theorem readBody_quoted (text : List Char) {rest : List Char}
    (apart : rest.head?.any isQuote = false) :
    readBody (Text.quoteFor text)
        (text.flatMap (quotedChar (Text.quoteFor text)) ++ Text.quoteFor text :: rest) =
      some (text.flatMap (quotedChar (Text.quoteFor text)), rest) := by
  have quoted := isQuote_quoteFor text
  refine readBody_quotedText quoted text fun same => ?_
  rw [same, Option.any_some, quoted] at apart
  cases apart

theorem unifyLines_of_inLine {text : List Char} (inLine : ∀ c ∈ text, InLine c) :
    unifyLines text = text := by
  have noReturn : '\r' ∉ text := fun member => (inLine _ member).2.1 rfl
  simpa [unifyLines] using unifyLines_append noReturn []

/-- A text is one lexeme. -/
theorem lexFrom_text {quote : Char} {source body rest : List Char} {token : Token} {place : Place}
    (quoted : isQuote quote = true) (read : readBody quote source = some (body, rest))
    (stands : textToken? {} body = some token) (unindented : place.indented = false) (fuel : Nat) :
    lexFrom (fuel + 1) place (quote :: source) =
      (lexFrom fuel
        { place with atStart := false, line := place.line + body.count '\n' } rest).map
          (⟨token, place.line⟩ :: ·) := by
  rcases eq_of_isQuote quoted with rfl | rfl
  · simp [lexFrom, unindented, read, stands]
  · simp [lexFrom, unindented, read, stands]

/-- A quoted text is one lexeme, on one line. -/
theorem lexFrom_quoted (text : List Char) {rest : List Char} {place : Place}
    (apart : rest.head?.any isQuote = false) (unindented : place.indented = false)
    (fuel : Nat) :
    lexFrom (fuel + 1) place (Text.quoted text ++ rest) =
      (lexFrom fuel { place with atStart := false } rest).map (⟨.text text, place.line⟩ :: ·) := by
  have quoted := isQuote_quoteFor text
  have oneLine : (text.flatMap (quotedChar (Text.quoteFor text))).count '\n' = 0 :=
    List.count_eq_zero.2 fun member => (inLine_of_mem_quotedText quoted text _ member).1 rfl
  have lexed := lexFrom_text quoted (readBody_quoted text apart)
    (textToken?_quotedText quoted text) unindented fuel
  rw [oneLine] at lexed
  simpa [Text.quoted] using lexed

/-! ### Calls around a text -/

/-- What the lexer takes for one name before an opening bracket. -/
def IsCallee (word : List Char) : Prop :=
  ∃ c letters, word = c :: letters ∧ isNameChar c = true ∧ c.isDigit = false ∧
    letters.all isNameChar = true ∧ Text.isIdentifier word = true

theorem lexFrom_callee {word : List Char} (callee : IsCallee word) {place : Place}
    (unindented : place.indented = false) (fuel : Nat) (rest : List Char) :
    lexFrom (fuel + 1) place (word ++ '(' :: rest) =
      (lexFrom fuel { place with atStart := false } ('(' :: rest)).map
        (⟨.name (String.ofList word), place.line⟩ :: ·) := by
  obtain ⟨c, letters, rfl, named, noDigit, inside, identifier⟩ := callee
  -- A character of a name starts nothing that the lexer asks for before names.
  have letter : ∀ d ∈ letters, isNameChar d = true := List.all_eq_true.1 inside
  have other {d : Char} (noName : isNameChar d = false) : c ≠ d := by
    rintro rfl
    rw [named] at noName
    cases noName
  have blank : ¬ (c = ' ' ∨ c = '\t') := not_or.2 ⟨other (by decide), other (by decide)⟩
  have quote : ¬ (c = '\'' ∨ c = '"') := not_or.2 ⟨other (by decide), other (by decide)⟩
  have ends : isNameChar '(' = false := by decide
  rw [List.cons_append, lexFrom.eq_def]
  dsimp only
  rw [if_neg (by simpa using blank), if_neg (other (by decide)), if_neg (other (by decide)),
    if_neg (other (by decide)), if_neg (other (by decide)), if_neg (by simp [unindented]),
    if_neg (by simp [noDigit, other (d := '.') (by decide)]), if_neg (by simpa using quote),
    if_pos named, List.takeWhile_append_of_pos letter, List.dropWhile_append_of_pos letter,
    List.takeWhile_cons_of_neg (by simp [ends]), List.dropWhile_cons_of_neg (by simp [ends]),
    List.append_nil, identifier]
  rfl

theorem lexFrom_openBracket {place : Place} (few : place.brackets.length < bracketLimit)
    (unindented : place.indented = false) (fuel : Nat) (rest : List Char) :
    lexFrom (fuel + 1) place ('(' :: rest) =
      (lexFrom fuel { place with brackets := ")" :: place.brackets, atStart := false } rest).map
        (⟨.symbol "(", place.line⟩ :: ·) := by
  have symbol : readSymbol? ('(' :: rest) = some "(" := rfl
  have ends : isNameChar '(' = false := by decide
  have behind : ('(' :: rest).drop "(".length = rest := rfl
  simp [lexFrom, unindented, symbol, closingBracket?, few, ends, behind]

end TypstMarkup.Expression
