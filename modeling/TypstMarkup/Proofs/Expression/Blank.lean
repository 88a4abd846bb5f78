import Mathlib.Data.Option.Basic
import TypstMarkup.Expression.Parser

/-!
Blanks between the brackets of a call. There are more blanks than the lexer passes over, but no
lexeme starts with one, so where only blanks stand between the brackets the call has no arguments.
-/
namespace TypstMarkup.Expression

/-! ### Blanks in the lexer -/

def IsPassed (c : Char) : Prop := c = ' ' ∨ c = '\t' ∨ c = '\x0c' ∨ c = '\n'

instance (c : Char) : Decidable (IsPassed c) :=
  inferInstanceAs (Decidable (c = ' ' ∨ c = '\t' ∨ c = '\x0c' ∨ c = '\n'))

/-- No lexeme starts with the character: no comment or joined line, no number or text, no name and
no mark of a text, and no symbol. -/
def StartsNothing (c : Char) : Prop :=
  ¬ IsPassed c ∧ (c ≠ '#' ∧ c ≠ '\\') ∧ (c.isDigit = false ∧ c ≠ '.') ∧ (c ≠ '\'' ∧ c ≠ '"') ∧
    (Text.startsIdentifier c = false ∧ textMarks? [c] = none) ∧
      symbols.all (fun s => s.toList.head?.all (· != c)) = true

instance (c : Char) : Decidable (StartsNothing c) :=
  inferInstanceAs (Decidable (¬ IsPassed c ∧ (c ≠ '#' ∧ c ≠ '\\') ∧ (c.isDigit = false ∧ c ≠ '.') ∧
    (c ≠ '\'' ∧ c ≠ '"') ∧ (Text.startsIdentifier c = false ∧ textMarks? [c] = none) ∧
      symbols.all (fun s => s.toList.head?.all (· != c)) = true))

def blankCodes : List Nat :=
  [0x09, 0x0a, 0x0b, 0x0c, 0x0d, 0x1c, 0x1d, 0x1e, 0x1f, 0x20, 0x85, 0xa0, 0x1680, 0x2000, 0x2001,
    0x2002, 0x2003, 0x2004, 0x2005, 0x2006, 0x2007, 0x2008, 0x2009, 0x200a, 0x2028, 0x2029, 0x202f,
    0x205f, 0x3000]

theorem mem_blankCodes {c : Char} (blank : Text.isBlank c = true) : c.toNat ∈ blankCodes := by
  simp only [Text.isBlank, Text.inRanges, List.any_cons, List.any_nil, Bool.or_eq_true,
    Bool.and_eq_true, decide_eq_true_eq, Bool.or_false] at blank
  simp only [blankCodes, List.mem_cons, List.not_mem_nil, or_false]
  omega

theorem passed_or_startsNothing {c : Char} (blank : Text.isBlank c = true) :
    IsPassed c ∨ StartsNothing c := by
  have all : ∀ n ∈ blankCodes, IsPassed (Char.ofNat n) ∨ StartsNothing (Char.ofNat n) := by
    decide +kernel
  have code := all c.toNat (mem_blankCodes blank)
  rwa [Char.ofNat_toNat] at code

theorem readSymbol?_eq_none {c : Char}
    (other : symbols.all (fun s => s.toList.head?.all (· != c)) = true) (rest : List Char) :
    readSymbol? (c :: rest) = none := by
  have filled : symbols.all (fun s => s.toList.head?.isSome) = true := by decide
  rw [readSymbol?, List.find?_eq_none]
  intro s member starts
  have first := List.all_eq_true.1 other s member
  obtain ⟨d, head⟩ := Option.isSome_iff_exists.1 (List.all_eq_true.1 filled s member)
  obtain ⟨more, chars⟩ := List.head?_eq_some_iff.1 head
  rw [chars] at first starts
  rw [List.isPrefixOf_iff_prefix, List.cons_prefix_cons] at starts
  simp [starts.1] at first

theorem textMarks?_eq_none {c : Char} (noMark : textMarks? [c] = none) (word : List Char) :
    textMarks? (c :: word) = none := by
  unfold textMarks? at noMark ⊢
  rw [List.foldlM_cons] at noMark ⊢
  simp only [List.foldlM_nil, bind_pure] at noMark
  simp only [noMark]
  rfl

variable {place : Place} {c : Char}

theorem lexFrom_passed (passed : IsPassed c) (within : place.brackets ≠ []) (fuel : Nat)
    (rest : List Char) :
    ∃ next : Place, next.brackets = place.brackets ∧
      lexFrom (fuel + 1) place (c :: rest) = lexFrom fuel next rest := by
  have inside : place.brackets.isEmpty = false := by simpa using within
  rw [lexFrom.eq_def]
  rcases passed with rfl | rfl | rfl | rfl
  · exact ⟨{ place with indented := place.indented || place.atStart }, rfl, rfl⟩
  · exact ⟨{ place with indented := place.indented || place.atStart }, rfl, rfl⟩
  · exact ⟨{ place with indented := place.indented && !place.atStart }, rfl, rfl⟩
  · refine ⟨{ place with line := place.line + 1, indented := false }, rfl, ?_⟩
    simp [inside]

theorem lexFrom_startsNothing (strange : StartsNothing c) (within : place.brackets ≠ [])
    (fuel : Nat) (rest : List Char) : lexFrom (fuel + 1) place (c :: rest) = none := by
  obtain ⟨noBlank, ⟨noSign, noSlash⟩, ⟨noDigit, noPoint⟩, ⟨noQuote, noDouble⟩, ⟨noName, noMark⟩,
    noSymbol⟩ := strange
  have inside : place.brackets.isEmpty = false := by simpa using within
  obtain ⟨noSpace, noTab, noFeed, noLine⟩ : c ≠ ' ' ∧ c ≠ '\t' ∧ c ≠ '\x0c' ∧ c ≠ '\n' := by
    simpa [IsPassed] using noBlank
  have noWord (more : List Char) : Text.isIdentifier (c :: more) = false := by
    simp [Text.isIdentifier, noName]
  rw [lexFrom.eq_def]
  dsimp only
  rw [if_neg (by simp [noSpace, noTab]), if_neg noFeed, if_neg noSign, if_neg noLine,
    if_neg noSlash, if_neg (by simp [inside]), if_neg (by simp [noDigit, noPoint]),
    if_neg (by simp [noQuote, noDouble])]
  -- What is left is a name that is no identifier, or the failure to read a symbol.
  split
  · split
    · split
      · rw [textMarks?_eq_none noMark, noWord]
        rfl
      · rw [noWord]
        rfl
    · rw [noWord]
      rfl
  · rw [readSymbol?_eq_none noSymbol]
    rfl

/-- Between the brackets of a call, blanks make no lexeme. -/
theorem lexFrom_blanks {blanks : List Char} (blank : ∀ c ∈ blanks, Text.isBlank c = true)
    (within : place.brackets = [")"]) {fuel : Nat} {lexemes : List Lexeme}
    (found : lexFrom fuel place (blanks ++ [')']) = some lexemes) :
    ∃ line, lexemes = [⟨.symbol ")", line⟩] := by
  induction blanks generalizing place fuel with
  | nil =>
    obtain ⟨brackets, line, atStart, indented⟩ := place
    cases within
    match fuel with
    | 0 => cases found
    | 1 => cases atStart <;> cases indented <;> cases found
    | fuel + 2 => cases atStart <;> cases indented <;> cases found <;> exact ⟨_, rfl⟩
  | cons c blanks ih =>
    have filled : place.brackets ≠ [] := by simp [within]
    cases fuel with
    | zero => cases found
    | succ fuel =>
      rcases passed_or_startsNothing (blank c List.mem_cons_self) with passed | strange
      · obtain ⟨next, same, step⟩ := lexFrom_passed passed filled fuel (blanks ++ [')'])
        rw [List.cons_append, step] at found
        exact ih (fun d member => blank d (List.mem_cons_of_mem c member)) (same.trans within) found
      · rw [List.cons_append, lexFrom_startsNothing strange filled] at found
        cases found

end TypstMarkup.Expression
