import TypstMarkup.Proofs.Expression.Brackets

/-!
Lexemes of a source as a relation: one constructor for each way in which lexing goes on. Of the
place of the lexer it keeps the closing brackets that are awaited; lines and indentation are left
out, so the relation says what lexing can give and not when it fails.
-/
namespace TypstMarkup.Expression

/-- Lexemes of a source while some closing brackets are awaited. -/
inductive Lexed : List String → List Char → List Lexeme → Prop where
  | done : Lexed [] [] []
  | passed {brackets : List String} {c : Char} {rest : List Char} {lexemes : List Lexeme}
      (blank : c = ' ' ∨ c = '\t' ∨ c = '\x0c' ∨ c = '\n') (tail : Lexed brackets rest lexemes) :
      Lexed brackets (c :: rest) lexemes
  | lineEnd {line : Nat} {rest : List Char} {lexemes : List Lexeme} (tail : Lexed [] rest lexemes) :
      Lexed [] ('\n' :: rest) (⟨.lineEnd, line⟩ :: lexemes)
  | comment {brackets : List String} {rest : List Char} {lexemes : List Lexeme}
      (tail : Lexed brackets (rest.dropWhile (· != '\n')) lexemes) :
      Lexed brackets ('#' :: rest) lexemes
  | joined {brackets : List String} {rest : List Char} {lexemes : List Lexeme}
      (tail : Lexed brackets rest lexemes) : Lexed brackets ('\\' :: '\n' :: rest) lexemes
  | number {brackets : List String} {c : Char} {rest after : List Char} {lexemes : List Lexeme}
      {v : Value} {line : Nat}
      (starts : (c.isDigit || c = '.' && rest.head?.any Char.isDigit) = true)
      (read : readNumber (c :: rest) = some (v, after)) (tail : Lexed brackets after lexemes) :
      Lexed brackets (c :: rest) (⟨.number v, line⟩ :: lexemes)
  | text {brackets : List String} {quote : Char} {source body after : List Char}
      {lexemes : List Lexeme} {token : Token} {line : Nat}
      (quoted : (quote = '\'' || quote = '"') = true)
      (read : readBody quote source = some (body, after)) (noSymbol : ∀ s, token ≠ .symbol s)
      (tail : Lexed brackets after lexemes) :
      Lexed brackets (quote :: source) (⟨token, line⟩ :: lexemes)
  | marked {brackets : List String} {c quote : Char} {rest source body after : List Char}
      {lexemes : List Lexeme} {token : Token} {line : Nat} (letter : isNameChar c = true)
      (marks : rest.dropWhile isNameChar = quote :: source)
      (quoted : (quote = '\'' || quote = '"') = true)
      (read : readBody quote source = some (body, after)) (noSymbol : ∀ s, token ≠ .symbol s)
      (tail : Lexed brackets after lexemes) :
      Lexed brackets (c :: rest) (⟨token, line⟩ :: lexemes)
  | name {brackets : List String} {c : Char} {rest : List Char} {lexemes : List Lexeme} {line : Nat}
      (letter : isNameChar c = true) (tail : Lexed brackets (rest.dropWhile isNameChar) lexemes) :
      Lexed brackets (c :: rest)
        (⟨.name (String.ofList (c :: rest.takeWhile isNameChar)), line⟩ :: lexemes)
  | opening {brackets : List String} {source : List Char} {lexemes : List Lexeme}
      {s close : String} {line : Nat} (found : readSymbol? source = some s)
      (opens : closingBracket? s = some close)
      (tail : Lexed (close :: brackets) (source.drop s.length) lexemes) :
      Lexed brackets source (⟨.symbol s, line⟩ :: lexemes)
  | closing {brackets : List String} {source : List Char} {lexemes : List Lexeme} {s : String}
      {line : Nat} (found : readSymbol? source = some s) (closes : isClosing s = true)
      (tail : Lexed brackets (source.drop s.length) lexemes) :
      Lexed (s :: brackets) source (⟨.symbol s, line⟩ :: lexemes)
  | symbol {brackets : List String} {source : List Char} {lexemes : List Lexeme} {s : String}
      {line : Nat} (found : readSymbol? source = some s) (plain : IsPlain s)
      (tail : Lexed brackets (source.drop s.length) lexemes) :
      Lexed brackets source (⟨.symbol s, line⟩ :: lexemes)

def Token.IsText : Token → Prop
  | .text _ | .bytes _ | .formatted _ _ => True
  | _ => False

theorem isText_of_textToken? {marks : TextMarks} {body : List Char} {token : Token}
    (made : textToken? marks body = some token) : token.IsText := by
  unfold textToken? at made
  split at made
  · cases made
    trivial
  split at made
  · split at made
    · cases made
    split at made
    · cases made
      trivial
    · obtain ⟨data, -, same⟩ := Option.map_eq_some_iff.1 made
      cases same
      trivial
  split at made
  · cases made
    trivial
  · obtain ⟨text, -, same⟩ := Option.map_eq_some_iff.1 made
    cases same
    trivial

/-- A step of the lexer: the lexemes that it gives, the closing brackets that are awaited after it,
and what is left of the source. -/
inductive Step : List String → List Char → List Lexeme → List String → List Char → Prop where
  | passed {brackets : List String} {c : Char} {rest : List Char}
      (blank : c = ' ' ∨ c = '\t' ∨ c = '\x0c' ∨ c = '\n') :
      Step brackets (c :: rest) [] brackets rest
  | lineEnd {line : Nat} {rest : List Char} : Step [] ('\n' :: rest) [⟨.lineEnd, line⟩] [] rest
  | comment {brackets : List String} {rest : List Char} :
      Step brackets ('#' :: rest) [] brackets (rest.dropWhile (· != '\n'))
  | joined {brackets : List String} {rest : List Char} :
      Step brackets ('\\' :: '\n' :: rest) [] brackets rest
  | number {brackets : List String} {c : Char} {rest after : List Char} {v : Value} {line : Nat}
      (starts : (c.isDigit || c = '.' && rest.head?.any Char.isDigit) = true)
      (read : readNumber (c :: rest) = some (v, after)) :
      Step brackets (c :: rest) [⟨.number v, line⟩] brackets after
  | text {brackets : List String} {quote : Char} {source body after : List Char} {token : Token}
      {line : Nat} (quoted : (quote = '\'' || quote = '"') = true)
      (read : readBody quote source = some (body, after)) (isText : token.IsText) :
      Step brackets (quote :: source) [⟨token, line⟩] brackets after
  | marked {brackets : List String} {c quote : Char} {rest source body after : List Char}
      {token : Token} {line : Nat} (letter : isNameChar c = true)
      (marks : rest.dropWhile isNameChar = quote :: source)
      (quoted : (quote = '\'' || quote = '"') = true)
      (read : readBody quote source = some (body, after)) (isText : token.IsText) :
      Step brackets (c :: rest) [⟨token, line⟩] brackets after
  | name {brackets : List String} {c : Char} {rest : List Char} {line : Nat}
      (letter : isNameChar c = true) :
      Step brackets (c :: rest) [⟨.name (String.ofList (c :: rest.takeWhile isNameChar)), line⟩]
        brackets (rest.dropWhile isNameChar)
  | opening {brackets : List String} {source : List Char} {s close : String} {line : Nat}
      (found : readSymbol? source = some s) (opens : closingBracket? s = some close) :
      Step brackets source [⟨.symbol s, line⟩] (close :: brackets) (source.drop s.length)
  | closing {brackets : List String} {source : List Char} {s : String} {line : Nat}
      (found : readSymbol? source = some s) (closes : isClosing s = true) :
      Step (s :: brackets) source [⟨.symbol s, line⟩] brackets (source.drop s.length)
  | symbol {brackets : List String} {source : List Char} {s : String} {line : Nat}
      (found : readSymbol? source = some s) (plain : IsPlain s) :
      Step brackets source [⟨.symbol s, line⟩] brackets (source.drop s.length)

/-- A step in front of lexemes. -/
theorem Step.lexed {brackets upper : List String} {source rest : List Char}
    {given lexemes : List Lexeme} (step : Step brackets source given upper rest)
    (tail : Lexed upper rest lexemes) : Lexed brackets source (given ++ lexemes) := by
  have noSymbol {token : Token} (isText : token.IsText) (s : String) : token ≠ .symbol s := by
    rintro rfl
    cases isText
  cases step with
  | passed blank => exact .passed blank tail
  | lineEnd => exact .lineEnd tail
  | comment => exact .comment tail
  | joined => exact .joined tail
  | number starts read => exact .number starts read tail
  | text quoted read isText => exact .text quoted read (noSymbol isText) tail
  | marked letter marks quoted read isText =>
    exact .marked letter marks quoted read (noSymbol isText) tail
  | name letter => exact .name letter tail
  | opening found opens => exact .opening found opens tail
  | closing found closes => exact .closing found closes tail
  | symbol found plain => exact .symbol found plain tail

/-- Lexemes that begin with a step and go on with what the lexer finds from there. -/
def Begins (fuel : Nat) (place : Place) (source : List Char) (lexemes : List Lexeme) : Prop :=
  ∃ given next after more, Step place.brackets source given next.brackets after ∧
    lexFrom fuel next after = some more ∧ lexemes = given ++ more

namespace Begins
variable {fuel : Nat} {place next : Place} {source after : List Char} {lexemes : List Lexeme}

theorem onward (found : lexFrom fuel next after = some lexemes)
    (step : Step place.brackets source [] next.brackets after) :
    Begins fuel place source lexemes :=
  ⟨[], next, after, lexemes, step, found, rfl⟩

theorem behind {token : Token} {line : Nat}
    (found : (lexFrom fuel next after).map (⟨token, line⟩ :: ·) = some lexemes)
    (step : Step place.brackets source [⟨token, line⟩] next.brackets after) :
    Begins fuel place source lexemes := by
  obtain ⟨more, foundMore, made⟩ := Option.map_eq_some_iff.1 found
  exact ⟨_, next, after, more, step, foundMore, made.symm⟩

theorem name {c : Char} {rest : List Char} {line : Nat} (letter : isNameChar c = true)
    (found : (do
      guard (Text.isIdentifier (c :: rest.takeWhile isNameChar))
      (lexFrom fuel next (rest.dropWhile isNameChar)).map
        (⟨.name (String.ofList (c :: rest.takeWhile isNameChar)), line⟩ :: ·)) = some lexemes)
    (same : next.brackets = place.brackets) : Begins fuel place (c :: rest) lexemes := by
  obtain ⟨_, -, found⟩ := Option.bind_eq_some_iff.1 found
  exact behind found (same ▸ .name letter)

end Begins

/-- What the lexer finds begins with a step. -/
theorem begins_of_lexFrom {fuel : Nat} {place : Place} {c : Char} {rest : List Char}
    {lexemes : List Lexeme} (found : lexFrom (fuel + 1) place (c :: rest) = some lexemes) :
    Begins fuel place (c :: rest) lexemes := by
  rw [lexFrom.eq_def] at found
  dsimp only at found
  -- Blanks and form feeds.
  rw [ite_eq_iff] at found
  rcases found with ⟨blank, found⟩ | ⟨-, found⟩
  · rw [Bool.or_eq_true, decide_eq_true_eq, decide_eq_true_eq] at blank
    exact .onward found (.passed (blank.imp_right .inl))
  rw [ite_eq_iff] at found
  rcases found with ⟨blank, found⟩ | ⟨-, found⟩
  · exact .onward found (.passed (.inr (.inr (.inl blank))))
  -- Comments, line ends and joined lines.
  rw [ite_eq_iff] at found
  rcases found with ⟨rfl, found⟩ | ⟨-, found⟩
  · exact .onward found .comment
  rw [ite_eq_iff] at found
  rcases found with ⟨rfl, found⟩ | ⟨-, found⟩
  · split at found
    · exact .onward found (.passed (.inr (.inr (.inr rfl))))
    split at found
    · exact .onward found (.passed (.inr (.inr (.inr rfl))))
    · rename_i outside _
      have none : place.brackets = [] := by simpa using outside
      exact .behind found (by rw [none]; exact .lineEnd)
  rw [ite_eq_iff] at found
  rcases found with ⟨rfl, found⟩ | ⟨-, found⟩
  · split at found
    · exact .onward found .joined
    · cases found
  -- An indented line gives nothing.
  rw [ite_eq_iff] at found
  rcases found with ⟨-, found⟩ | ⟨-, found⟩
  · cases found
  -- Numbers and texts.
  rw [ite_eq_iff] at found
  rcases found with ⟨starts, found⟩ | ⟨-, found⟩
  · obtain ⟨⟨v, after⟩, read, found⟩ := Option.bind_eq_some_iff.1 found
    exact .behind found (.number starts read)
  rw [ite_eq_iff] at found
  rcases found with ⟨quoted, found⟩ | ⟨-, found⟩
  · obtain ⟨⟨body, after⟩, read, found⟩ := Option.bind_eq_some_iff.1 found
    obtain ⟨token, made, found⟩ := Option.bind_eq_some_iff.1 found
    exact .behind found (.text quoted read (isText_of_textToken? made))
  -- Names and marked texts, and at last the symbols.
  rw [ite_eq_iff] at found
  rcases found with ⟨letter, found⟩ | ⟨-, found⟩
  · split at found
    · rename_i quote source marks
      split at found
      · rename_i quoted
        split at found
        · obtain ⟨⟨body, after⟩, read, found⟩ := Option.bind_eq_some_iff.1 found
          obtain ⟨token, made, found⟩ := Option.bind_eq_some_iff.1 found
          exact .behind found (.marked letter marks quoted read (isText_of_textToken? made))
        · exact .name letter found rfl
      · exact .name letter found rfl
    · exact .name letter found rfl
  · obtain ⟨s, symbol, found⟩ := Option.bind_eq_some_iff.1 found
    split at found
    · rename_i close opens
      split at found
      · exact .behind found (.opening symbol opens)
      · cases found
    · rename_i opens
      split at found
      · rename_i closes
        split at found
        · rename_i open_ others awaited
          split at found
          · rename_i same
            subst same
            exact .behind found (by rw [awaited]; exact .closing symbol closes)
          · cases found
        · cases found
      · rename_i closes
        exact .behind found (.symbol symbol ⟨opens, by simpa using closes⟩)

/-- What the lexer finds is lexed so. -/
theorem lexed_of_lexFrom {fuel : Nat} {place : Place} {source : List Char} {lexemes : List Lexeme}
    (found : lexFrom fuel place source = some lexemes) : Lexed place.brackets source lexemes := by
  induction fuel generalizing place source lexemes with
  | zero => cases found
  | succ fuel ih =>
    cases source with
    | nil =>
      rw [lexFrom] at found
      split at found
      · rename_i ended
        cases found
        rw [Bool.and_eq_true, List.isEmpty_iff] at ended
        rw [ended.1]
        exact .done
      · cases found
    | cons c rest =>
      obtain ⟨given, next, after, more, step, later, rfl⟩ := begins_of_lexFrom found
      exact step.lexed (ih later)

end TypstMarkup.Expression
