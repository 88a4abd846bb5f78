import TypstMarkup.Expression.Lexer

/-!
The division of a formatted text into literal text and fields. A field ends at the first colon,
exclamation mark, equals sign or closing brace outside brackets and quotes; inside it neither a
backslash nor a comment may stand.
-/
namespace TypstMarkup.Expression

inductive Piece where
  | literal (text : List Char)
  /-- A field: its expression as written, the number of line ends that follow its opening brace,
  what to show in front of it, its conversion, and the pieces of its format. -/
  | field (source : List Char) (lineEndsAfter : Nat) (shown : List Char) (conversion : Conversion)
      (spec : List Piece)

/-- The comparison signs that do not end a field. -/
def comparisonSign : List Char → Bool
  | '!' :: '=' :: _ | '=' :: '=' :: _ | '<' :: '=' :: _ | '>' :: '=' :: _ => true
  | _ => false

/-- Reads the expression of a field; `brackets` holds the closing brackets it waits for, and `quote`
the open quote and whether it is tripled. -/
def fieldSource : Nat → List Char → Option (Char × Bool) → List Char →
    Option (List Char × List Char)
  | 0, _, _, _ => none
  | _ + 1, _, _, [] => none
  | fuel + 1, brackets, some (quote, triple), c :: rest =>
    if c = '\\' then none
    else if c = quote then
      if triple then
        if [quote, quote].isPrefixOf rest then
          (fieldSource fuel brackets none (rest.drop 2)).map fun r => (c :: c :: c :: r.1, r.2)
        else (fieldSource fuel brackets (some (quote, triple)) rest).map fun r => (c :: r.1, r.2)
      else (fieldSource fuel brackets none rest).map fun r => (c :: r.1, r.2)
    else (fieldSource fuel brackets (some (quote, triple)) rest).map fun r => (c :: r.1, r.2)
  | fuel + 1, brackets, none, c :: rest =>
    let take (count : Nat) (brackets : List Char) (quote : Option (Char × Bool)) :
        Option (List Char × List Char) :=
      (fieldSource fuel brackets quote (rest.drop (count - 1))).map fun r =>
        ((c :: rest).take count ++ r.1, r.2)
    -- Neither backslashes nor comments may stand in a field.
    if c = '\\' || c = '#' then none
    else if c = '\'' || c = '"' then
      if [c, c].isPrefixOf rest then take 3 brackets (some (c, true))
      else take 1 brackets (some (c, false))
    else if c = '(' then take 1 (')' :: brackets) none
    else if c = '[' then take 1 (']' :: brackets) none
    else if c = '{' then take 1 ('}' :: brackets) none
    else if brackets.isEmpty && comparisonSign (c :: rest) then take 2 brackets none
    else if brackets.isEmpty && (c = '!' || c = ':' || c = '}' || c = '=') then
      some ([], c :: rest)
    else if c = ')' || c = ']' || c = '}' then
      match brackets with
      | close :: others => if close = c then take 1 others none else none
      | [] => none
    else take 1 brackets none

/-- Literal text up to the next brace; a doubled brace stands for one outside formats. The result is
the text as written and the rest. -/
def literalSource (raw top : Bool) : List Char → List Char × List Char
  | [] => ([], [])
  | '\\' :: c :: rest =>
    if raw then
      if c = '{' || c = '}' then (['\\'], c :: rest)
      else let r := literalSource raw top rest; ('\\' :: c :: r.1, r.2)
    else if c = '{' || c = '}' then (['\\'], c :: rest)
    else let r := literalSource raw top rest; ('\\' :: c :: r.1, r.2)
  | c :: rest =>
    if c = '{' || c = '}' then ([], c :: rest)
    else let r := literalSource raw top rest; (c :: r.1, r.2)

def literalText? (raw : Bool) (written : List Char) : Option (List Char) :=
  if raw then some written else decodeText written.length written

/-- The blanks that may stand around the expression of a field. -/
def isFieldBlank (c : Char) : Bool :=
  c == ' ' || c == '\t' || c == '\n' || c == '\x0c' || c == '\r'

/-- Divides a formatted text. `depth` counts the formats around it. A format ends at a closing
brace, which is left in the rest. -/
def piecesFrom (raw : Bool) : Nat → Nat → List Char → Option (List Piece × List Char)
  | 0, _, _ => none
  | fuel + 1, depth, source => do
    let top := depth = 0
    let (written, rest) := literalSource raw top source
    let text ← literalText? raw written
    let literal : List Piece := if text.isEmpty then [] else [.literal text]
    match rest with
    | [] => return (literal, [])
    | brace :: more =>
      if top && more.head? = some brace then
        let (pieces, rest) ← piecesFrom raw fuel depth (more.drop 1)
        return (literal ++ .literal [brace] :: pieces, rest)
      else if brace = '}' then
        if top then none else return (literal, rest)
      else
        -- A format may have fields, but their formats may not.
        guard (depth < 2)
        let (written, rest) ← fieldSource (more.length + 1) [] none more
        guard (!written.all isFieldBlank)
        -- Before an equals sign, the expression is shown as it is written, blanks included.
        let (shown, rest) := match rest with
          | '=' :: rest =>
            let blanks := rest.takeWhile isFieldBlank
            (written ++ '=' :: blanks, rest.drop blanks.length)
          | rest => ([], rest)
        let (conversion, rest) ← match rest with
          | '!' :: c :: rest =>
            if c = 's' then some (Conversion.plain, rest)
            else if c = 'r' then some (.shown, rest)
            else if c = 'a' then some (.ascii, rest)
            else none
          | '!' :: [] => none
          | rest => some (.none, rest)
        let (spec, rest) ← match rest with
          | ':' :: rest => piecesFrom raw fuel (depth + 1) rest
          | rest => some ([], rest)
        match rest with
        | '}' :: rest =>
          -- With an equals sign the value is in its shown form, unless it is asked for otherwise.
          let conversion := if conversion == .none && !shown.isEmpty && spec.isEmpty then .shown
            else conversion
          let (pieces, rest) ← piecesFrom raw fuel depth rest
          return (literal ++ .field written (more.count '\n') shown conversion spec :: pieces, rest)
        | _ => none

def pieces? (raw : Bool) (body : List Char) : Option (List Piece) :=
  match piecesFrom raw (body.length + 1) 0 body with
  | some (pieces, []) => some pieces
  | _ => none

end TypstMarkup.Expression
