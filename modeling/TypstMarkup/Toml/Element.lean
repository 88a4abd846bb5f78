import TypstMarkup.Toml.Body
import TypstMarkup.Toml.Word

/-!
Values with their layout. An array keeps its line feeds and comments, and an inline table its
blanks. An array that meets its closing bracket within an item is closed there, without the item.
-/
namespace TypstMarkup.Toml

/-- The text of an inline table. Commas stand directly behind all values but the last. -/
def inlineText (body : Body) : List Char :=
  '{' :: go body ++ ['}']
where
  go : Body → List Char
    | [] => []
    | (none, item) :: rest => item.plainText ++ go rest
    | (some slot, item) :: rest =>
      let text := match item with
        | .value _ text margin =>
          margin.indent ++ slot.key.written ++ slot.separator ++ text ++ margin.comment ++
            margin.ending
        | item =>
          slot.key.written ++ (if slot.dotted then ['.'] else []) ++ slot.separator ++
            Body.text [] item.entries
      text ++ (if rest.any fun entry => entry.1.isSome then [','] else []) ++ go rest

/-- Reads what stands between a key and its value: one equals sign, and blanks around it. -/
def separator? (source : List Char) : Except Trouble (List Char × List Char) :=
  let (separator, rest) := source.span fun c => c == '=' || isSpacing c
  match separator.count '=' with
  | 0 => .error (.unexpected rest)
  | 1 => .ok (separator, rest)
  | _ => .error .malformed

/-- A comment, up to the end of its line. It holds no controls. -/
def comment? (source : List Char) : Except Trouble (List Char × List Char) :=
  let (comment, rest) := source.span fun c => c != '\n' && c != '\r'
  if comment.any fun c => isControl c && c != '\t' then .error .malformed else .ok (comment, rest)

inductive InlineState where
  | opened
  | afterValue
  | afterComma

def addBlank (blank : List Char) (body : Body) : Body :=
  if blank.isEmpty then body else body ++ [(none, .blank blank)]

mutual

/-- Reads a value, within a budget of characters. The blanks that were read with it become the gap
before a comment. -/
def element? : Nat → List Char → Except Trouble (Item × List Char)
  | 0, _ => .error .malformed
  | budget + 1, source =>
    match source with
    | [] => .error (.unexpected [])
    | c :: rest =>
      if c == '"' || c == '\'' then
        match string? source with
        | some (_, _, rest) =>
          .ok (.value .plain (source.take (source.length - rest.length)) {}, rest)
        | none => .error .malformed
      else if c == '[' then do
        let (text, rest) ← array? budget false rest
        return (.value .plain ('[' :: text) {}, rest)
      else if c == '{' then
        if rest.isEmpty then .error .malformed
        else do
          let (body, rest) ← inline? budget (4 * budget + 4) .opened [] rest
          return (.value .inlineTable (inlineText body) {}, rest)
      else if c == 't' || c == 'f' then
        let word := if c == 't' then ['t', 'r', 'u', 'e'] else ['f', 'a', 'l', 's', 'e']
        if word.isPrefixOf source then
          .ok (.value (.truth (c == 't')) word {}, source.drop word.length)
        else .error (.unexpected source)
      else if c.isDigit || c == '+' || c == '-' || ['i', 'n', 'f'].isPrefixOf source ||
          ['n', 'a', 'n'].isPrefixOf source then do
        let (word, gap, rest) ← word? source
        return (.value .plain word { gap }, rest)
      else .error (.unexpected source)

/-- Reads an array after its opening bracket; `filled` says whether a value stands there that no
comma follows yet. -/
def array? : Nat → Bool → List Char → Except Trouble (List Char × List Char)
  | 0, _, _ => .error .malformed
  | budget + 1, filled, source => do
    let (space, rest) := source.span fun c => isSpacing c || c == '\n' || c == '\r'
    match rest with
    | '#' :: _ =>
      let (comment, rest) ← comment? rest
      let (text, rest) ← array? budget filled rest
      return (space ++ comment ++ text, rest)
    | _ =>
      if filled then
        match rest with
        | ',' :: rest =>
          if rest.isEmpty then throw .malformed
          let (text, rest) ← array? budget false rest
          return (space ++ ',' :: text, rest)
        | ']' :: rest => return (space ++ [']'], rest)
        | _ => throw (.unexpected rest)
      else
        match element? budget rest with
        | .ok (item, rest) =>
          let (text, rest) ← array? budget true rest
          return (space ++ item.valueText ++ text, rest)
        -- No value has to stand here: the array is empty, or a comma was its last one.
        | .error (.unexpected (']' :: rest)) => return (space ++ [']'], rest)
        | .error trouble => throw trouble

/-- Reads an inline table after its opening brace, `depth` the budget for what is in it. -/
def inline? : Nat → Nat → InlineState → Body → List Char → Except Trouble (Body × List Char)
  | 0, _, _, _, _ => .error .malformed
  | budget + 1, depth, state, body, source => do
    let (space, rest) := source.span isSpacing
    let body := addBlank space body
    match state, rest with
    | .opened, '}' :: rest | .afterValue, '}' :: rest => return (body, rest)
    | .opened, ',' :: _ | .afterComma, '}' :: _ | .afterComma, ',' :: _ | .afterValue, _ =>
      throw (.unexpected rest)
    | _, _ =>
      let (path, rest) ← keys? (rest.length + 1) rest
      let (separator, rest) ← separator? rest
      let (value, rest) ← element? budget rest
      let value := value.withMargin { value.margin with ending := [] }
      let body ← match Body.addPath? depth true path separator value body with
        | .ok body => pure body
        | .error cause => throw (.fault cause)
      let (space, rest) := rest.span isSpacing
      let body := addBlank space body
      match rest with
      | [','] => throw .malformed
      | ',' :: rest => inline? budget depth .afterComma body rest
      | rest => inline? budget depth .afterValue body rest

end

end TypstMarkup.Toml
