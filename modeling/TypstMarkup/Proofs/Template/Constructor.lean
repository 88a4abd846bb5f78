import TypstMarkup.Proofs.Expression.LeadingCall
import TypstMarkup.Proofs.Template.Divided
import TypstMarkup.Proofs.Template.Uncommented

/-!
The call that a splice makes. The contents are put between the brackets of the constructor's call,
but where that call ends is for the lexer to say, and a comment may hide a bracket from it that the
search for the end of the splice has counted. What is read is then the call of what the constructor
returns. It is a call of the constructor exactly if the last lexeme closes the constructor's
bracket.
-/
namespace TypstMarkup.Template

open Expression

/-- Contents stand for a call of the constructor with exactly one argument, not starred, and
settings. -/
def CallsConstructor (contents : List Char) : Prop :=
  ∃ value keywords line place,
    parse? (spliceSource contents) =
      some (.call (.name constructorName line) [value] keywords place) ∧ value.isStarred = false

/-- Behind the lexeme that closes the constructor's bracket there are no lexemes but line ends. -/
def ClosedByLast (contents : List Char) : Prop :=
  ∃ name bracket inside, lex? (spliceSource contents) = some (name :: bracket :: inside) ∧
    ClosesLast [")"] inside

/-! ### Lexemes of the call -/

theorem lexed_bracket {tail : List Char} {lexemes : List Lexeme}
    (lexed : Lexed [] ('(' :: tail) lexemes) :
    ∃ line rest, lexemes = ⟨.symbol "(", line⟩ :: rest ∧ Lexed [")"] tail rest := by
  have symbol : readSymbol? ('(' :: tail) = some "(" := rfl
  cases lexed with
  | passed blank => simp at blank
  | number starts => cases starts
  | text quoted => cases quoted
  | marked letter | name letter => cases letter
  | opening found opens inside =>
    rw [symbol] at found
    cases found
    cases opens
    exact ⟨_, _, rfl, inside⟩
  | symbol found plain =>
    rw [symbol] at found
    cases found
    cases plain.1

theorem lexed_constructor {tail : List Char} {lexemes : List Lexeme}
    (lexed : Lexed [] (constructorName.toList ++ '(' :: tail) lexemes) :
    ∃ start line rest, lexemes = ⟨.name constructorName, start⟩ :: ⟨.symbol "(", line⟩ :: rest ∧
      Lexed [")"] tail rest := by
  obtain ⟨word, chars, letters⟩ : ∃ word, constructorName.toList = '_' :: word ∧
      word.all isNameChar = true := ⟨_, rfl, by decide⟩
  rw [List.all_eq_true] at letters
  have taken : (word ++ '(' :: tail).takeWhile isNameChar = word := by
    rw [List.takeWhile_append_of_pos letters]
    exact List.append_nil word
  have left : (word ++ '(' :: tail).dropWhile isNameChar = '(' :: tail :=
    List.dropWhile_append_of_pos letters
  have noSymbol : readSymbol? ('_' :: (word ++ '(' :: tail)) = none := rfl
  rw [chars, List.cons_append] at lexed
  generalize word ++ '(' :: tail = source at lexed taken left noSymbol
  cases lexed with
  | passed blank => simp at blank
  | number starts => cases starts
  | text quoted => cases quoted
  | marked letter marks quoted =>
    rw [left] at marks
    cases marks
    cases quoted
  | @name _ _ _ _ start letter inside =>
    rw [left] at inside
    obtain ⟨line, rest, rfl, arguments⟩ := lexed_bracket inside
    refine ⟨start, line, rest, ?_, arguments⟩
    rw [taken, ← chars, String.ofList_toList]
  | opening found | symbol found =>
    rw [noSymbol] at found
    cases found

theorem unifyLines_spliceSource (contents : List Char) :
    unifyLines (spliceSource contents) =
      constructorName.toList ++ '(' :: (unifyLines contents ++ [')']) := by
  unfold spliceSource
  rw [List.append_assoc, unifyLines_append (by decide), List.cons_append,
    unifyLines_cons (by decide), unifyLines_append_bracket]

/-- The lexemes of the call begin with the constructor's name and its bracket. -/
theorem lexed_spliceSource {contents : List Char} {lexemes : List Lexeme}
    (found : lex? (spliceSource contents) = some lexemes) :
    ∃ start line rest, lexemes = ⟨.name constructorName, start⟩ :: ⟨.symbol "(", line⟩ :: rest ∧
      Lexed [")"] (unifyLines contents ++ [')']) rest := by
  unfold lex? at found
  rw [unifyLines_spliceSource] at found
  dsimp only at found
  split at found
  · cases found
  · exact lexed_constructor (lexed_of_lexFrom found)

/-- What is read from contents is a call of the constructor if the last lexeme closes its bracket,
and no call of a name otherwise. -/
theorem parse?_spliceSource {contents : List Char} {e : Expr}
    (parsed : parse? (spliceSource contents) = some e) :
    (ClosedByLast contents ∧ ∃ arguments keywords line place,
      e = .call (.name constructorName line) arguments keywords place) ∨
      (¬ ClosedByLast contents ∧ e.callsName = false) := by
  obtain ⟨lexemes, lexed, parsed⟩ := Option.bind_eq_some_iff.1 parsed
  obtain ⟨⟨e, left⟩, run, made⟩ := Option.bind_eq_some_iff.1 parsed
  cases made
  obtain ⟨start, line, rest, rfl, -⟩ := lexed_spliceSource lexed
  obtain ⟨ends, closed, shape⟩ := run_expressions (by decide) run
  rcases shape with ⟨⟨arguments, keywords, rfl⟩, ended⟩ | ⟨noCall, more⟩
  · exact .inl ⟨⟨_, _, rest, lexed, ends, closed, ended⟩, arguments, keywords, start, start, rfl⟩
  · refine .inr ⟨?_, noCall⟩
    rintro ⟨name, bracket, inside, same, ends', closed', ended⟩
    rw [lexed] at same
    cases same
    rw [closed] at closed'
    cases closed'
    exact more ended

/-- Without a number sign there is no comment, and the search and the lexer agree. -/
theorem closedByLast_of_uncommented {contents : List Char} {lexemes : List Lexeme}
    (lexed : lex? (spliceSource contents) = some lexemes) (enclosed : Enclosed 0 .code contents)
    (uncommented : '#' ∉ contents) : ClosedByLast contents := by
  obtain ⟨start, line, rest, rfl, inside⟩ := lexed_spliceSource lexed
  refine ⟨_, _, rest, lexed, closesLast_of_lexed inside [] rfl ⟨_, rfl, ?_, ?_⟩⟩
  · exact fun member => uncommented (mem_of_mem_unifyLines (by decide) member)
  · exact enclosed_unifyLines enclosed trivial

theorem hasOneValue_iff {e : Expr} :
    hasOneValue e = true ↔
      ∃ callee value keywords line, e = .call callee [value] keywords line ∧
        value.isStarred = false := by
  constructor
  · intro accepted
    unfold hasOneValue at accepted
    split at accepted
    · exact ⟨_, _, _, _, rfl, by simpa using accepted⟩
    · cases accepted
  · rintro ⟨callee, value, keywords, line, rfl, unstarred⟩
    simp [hasOneValue, unstarred]

/-- Whether scanning gives exactly one splice, with certain contents. -/
def scansTo (source contents : List Char) : Bool :=
  match scan source with
  | .ok [.splice s] => s.contents == contents
  | _ => false

theorem exists_splice_of_scansTo (source contents : List Char)
    (scans : scansTo source contents = true) :
    ∃ s, scan source = .ok [.splice s] ∧ s.contents = contents := by
  unfold scansTo at scans
  split at scans
  · rename_i s scanned
    exact ⟨s, scanned, by simpa using scans⟩
  · cases scans

/-- Every splice that is accepted makes a call with one argument, not starred. The call is one of
the constructor exactly if the last lexeme closes the constructor's bracket, and this is so for all
contents without a number sign. -/
theorem splice_calls_constructor_iff (source : List Char) (segments : List Segment)
    (scanned : scan source = .ok segments) (s : Splice) (member : s ∈ splices segments) :
    (∃ callee value keywords line,
      parse? (spliceSource s.contents) = some (.call callee [value] keywords line) ∧
        value.isStarred = false) ∧
      (CallsConstructor s.contents ↔ ClosedByLast s.contents) ∧
      ('#' ∉ s.contents → CallsConstructor s.contents) := by
  have divided := scan_eq_ok_iff.1 scanned
  obtain ⟨enclosed, read⟩ := read_of_divided divided member
  obtain ⟨-, parsed, oneValue, -⟩ := ofContents_eq_ok_iff.1 read
  obtain ⟨callee, value, keywords, line, called, unstarred⟩ := hasOneValue_iff.1 oneValue
  rw [called] at parsed
  have calls : CallsConstructor s.contents ↔ ClosedByLast s.contents := by
    rcases parse?_spliceSource parsed with ⟨closed, _, _, place, _, same⟩ | ⟨more, noCall⟩
    · cases same
      exact iff_of_true ⟨value, keywords, _, _, parsed, unstarred⟩ closed
    · refine iff_of_false ?_ more
      rintro ⟨_, _, _, _, other, -⟩
      rw [parsed] at other
      cases other
      cases noCall
  refine ⟨⟨callee, value, keywords, line, parsed, unstarred⟩, calls, fun uncommented => ?_⟩
  obtain ⟨lexemes, lexed, -⟩ := Option.bind_eq_some_iff.1 parsed
  exact calls.2 (closedByLast_of_uncommented lexed enclosed uncommented)

theorem splice_calls_constructor_nested :
    ∃ s, scan "\\(f(')')(1), mode=2)".toList = .ok [.splice s] ∧
      (∃ callee value keywords line,
        parse? (spliceSource s.contents) = some (.call callee [value] keywords line) ∧
          value.isStarred = false) ∧
      '#' ∉ s.contents ∧ CallsConstructor s.contents ∧ ClosedByLast s.contents := by
  obtain ⟨s, scanned, same⟩ := exists_splice_of_scansTo "\\(f(')')(1), mode=2)".toList
    "f(')')(1), mode=2".toList (by decide +kernel)
  have uncommented : '#' ∉ s.contents := by
    rw [same]
    decide
  obtain ⟨called, calls, without⟩ :=
    splice_calls_constructor_iff _ [.splice s] scanned s List.mem_cons_self
  exact ⟨s, scanned, called, uncommented, without uncommented, calls.1 (without uncommented)⟩

/-- The search counts the brackets in the two comments. Without them the first line ends behind the
bracket that closes the constructor's, and what it returns is called with the second value. -/
theorem comment_ends_call_early :
    ∃ s, scan "\\(1 #(\n)(2 #)\n)".toList = .ok [.splice s] ∧ ¬ CallsConstructor s.contents := by
  obtain ⟨s, scanned, same⟩ := exists_splice_of_scansTo "\\(1 #(\n)(2 #)\n)".toList
    "1 #(\n)(2 #)\n".toList (by decide +kernel)
  have noCall :
      (parse? (spliceSource "1 #(\n)(2 #)\n".toList)).map Expr.callsName = some false := by
    decide +kernel
  refine ⟨s, scanned, ?_⟩
  rw [same]
  rintro ⟨_, _, _, _, parsed, -⟩
  rw [parsed] at noCall
  cases noCall

end TypstMarkup.Template
