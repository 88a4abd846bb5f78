import TypstMarkup.Toml.Scalar

/-!
Assignments. A line assigns at its first equals sign outside quotes, or at a later one if what
follows an earlier one can be no value. The key before it may be a path of keys with points
between them.
-/
namespace TypstMarkup.Toml

/-! ### Parts between quotes -/

/-- Joins parts at double quotes until the number of parts is odd, which makes the last one stand
outside single quotes; the parts so far come last first. -/
def closeSingle : List (List Char) → List (List Char) → List (List Char) × List (List Char)
  | parts, [] => (parts, [])
  | parts, next :: rest =>
    match parts with
    | last :: before =>
      if parts.length % 2 == 0 then
        closeSingle (((last ++ '"' :: next).splitOn '\'').reverse ++ before) rest
      else (parts, next :: rest)
    | [] => ([], next :: rest)

/-- The parts of a text at its quotes: outside, inside, outside, and so on. -/
def quoteParts (text : List Char) : List (List Char) :=
  let doubles := text.splitOn '"'
  let (singles, doubles) := match doubles with
    | first :: next :: rest =>
      if first.contains '\'' then
        let (parts, rest) := closeSingle (first.splitOn '\'').reverse (next :: rest)
        (parts.reverse, rest)
      else ([], doubles)
    | _ => ([], doubles)
  singles ++ match doubles with
    | first :: rest => first.splitOn '\'' ++ rest
    | [] => []

/-- Which occurrence of a separator, counted from one, is the first outside quotes. -/
def firstOutside (separator : List Char) : Bool → List (List Char) → Nat
  | _, [] => 1
  | inside, part :: rest =>
    if !inside && Text.occursIn separator part then 1
    else Text.occurrences separator part + firstOutside separator (!inside) rest

/-! ### Cutting -/

/-- What stands before and after an equals sign, counted from one, or else the last one. -/
def cutAtEquals (occurrence : Nat) (line : List Char) : List Char × List Char :=
  (Text.cutAt? ['='] (min occurrence (Text.occurrences ['='] line)) line).getD ([], line)

/-- Whether what follows an equals sign may be a value. Everything behind a blank may. -/
def mayBeValue (text : List Char) : Bool :=
  match text with
  | [] => true
  | c :: _ =>
    c == ' ' || c == '\t' || c == '\'' || c == '"' || c == '[' || c == '{' ||
      Text.strip text == ['t', 'r', 'u', 'e'] || Text.strip text == ['f', 'a', 'l', 's', 'e'] ||
      (Text.readFloating? text).isSome || (Moment.ofText? text).isSome ||
      (clockNumbers? text).isSome

/-- Finds the equals sign of a line from an occurrence on, within a budget of equals signs: what
stands before it, the value after it, and whether that is written as numbers are. -/
def cutFrom? (line : List Char) : Nat → Nat → List Char → Bool → Option (Nat × List Char × Bool)
  | 0, _, _, _ => none
  | budget + 1, occurrence, value, tidy =>
    if mayBeValue value then some (occurrence, value, tidy)
    else
      let next := (cutAtEquals (occurrence + 1) line).2
      if value == next then none
      else cutFrom? line budget (occurrence + 1) next (tidy && isTidyNumber next)

/-- A line cut at its equals sign. -/
structure Assignment where
  /-- The keys of the tables on the way. -/
  path : List String
  key : String
  value : List Char
  /-- Whether the value is written as numbers are. -/
  tidy : Bool

/-- The levels of a key with points in it; those outside quotes lose the blanks around them, unless
there are no quotes at all. -/
def levelsOf (key : List Char) : List (List Char) :=
  if key.contains '"' || key.contains '\'' then levelsFrom false (quoteParts key)
  else key.splitOn '.'
where
  levelsFrom : Bool → List (List Char) → List (List Char)
    | _, [] => []
    | true, part :: rest => part :: levelsFrom false rest
    | false, part :: rest => (part.splitOn '.').map Text.strip ++ levelsFrom true rest

def keysOf? (key : List Char) : Except Refusal (List String × String) :=
  if key.contains '.' then
    match (levelsOf key).reverse.dropWhile List.isEmpty with
    | [] => .error (.failure (.outOfRange "list"))
    | last :: before =>
      .ok ((before.reverse.filter fun level => !level.isEmpty).map String.ofList,
        String.ofList (Text.strip last))
  else
    match key, key.getLast? with
    | first :: _, some last =>
      if first == last && (first == '"' || first == '\'') then
        match resolveShort? (Text.inner 1 key) with
        | some text => .ok ([], String.ofList text)
        | none => .error .malformed
      else .ok ([], String.ofList key)
    | _, _ => .error (.failure (.outOfRange "string"))

def Assignment.ofLine? (line : List Char) : Except Refusal Assignment := do
  let occurrence := firstOutside ['='] false (quoteParts line)
  let value := (cutAtEquals occurrence line).2
  let plain := if value.head?.any Char.isDigit then value.filter (· != '_') else value
  match cutFrom? line (Text.occurrences ['='] line + 3) occurrence plain (isTidyNumber value) with
  | none => throw .malformed
  | some (occurrence, value, tidy) =>
    let (path, key) ← keysOf? (Text.strip (cutAtEquals occurrence line).1)
    return ⟨path, key, Text.strip value, tidy⟩

/-! ### Texts over several lines -/

/-- A value that goes on in the next lines. -/
structure Pending where
  key : String
  /-- What has been read of the value. -/
  text : List Char
  /-- Whether the next line joins on without a line feed, and without the blanks around it. -/
  joined : Bool

def startsWithText (array : List Char) : Bool :=
  match Text.strip (Text.inner 1 array) with
  | c :: _ => c == '"' || c == '\''
  | [] => false

/-- The last item of an array that is not closed: the part after the last comma that a quote
follows. The parts come last first. -/
def lastText? : List (List Char) → Except Refusal (List Char)
  | [] => .ok []
  | [part] => .ok part
  | part :: next :: rest =>
    match part with
    | [] => .error (.failure (.outOfRange "string"))
    | c :: _ =>
      if c == '"' || c == '\'' then .ok part else lastText? ((next ++ ',' :: part) :: rest)
termination_by parts => parts.length

/-- Whether a text opens with three quotes and does not close on the same line. -/
def isOpenText? (text : List Char) : Except Refusal Bool :=
  match text with
  | quote :: rest =>
    if quote != '"' && quote != '\'' then .ok false
    else
      match rest with
      | second :: rest =>
        if second != quote then .ok false
        else
          match rest with
          | third :: _ =>
            .ok (third == quote &&
              !(5 < text.length && (text.reverse.take 3).all (· == quote)))
          | [] => .error (.failure (.outOfRange "string"))
      | [] => .error (.failure (.outOfRange "string"))
  | [] => .error (.failure (.outOfRange "string"))

/-- What a value that goes on in the next lines leaves open. -/
def pending? (key : String) (value : List Char) : Except Refusal (Option Pending) := do
  if value.length < 3 then return none
  let isOpenArray := value.head? == some '[' && value.getLast? != some ']' && startsWithText value
  let text ←
    if isOpenArray then lastText? ((Text.strip (value.drop 1)).splitOn ',').reverse else pure value
  if ← isOpenText? text then
    let escaped := (text.reverse.takeWhile (· == '\\')).length % 2 == 1
    return some ⟨key, if escaped then value.dropLast else value ++ ['\n'], escaped⟩
  else return none

/-- Makes an assignment in a node; `read` reads its value. Tables on the way are opened. A value
that goes on in the next lines is not set yet. -/
def Assignment.perform? (a : Assignment) (read : Bool → List Char → Except Refusal Node) :
    List String → Node → Except Refusal (Node × Option Pending)
  | [], node => do
    match ← pending? a.key a.value with
    | some p =>
      match node.entry? a.key with
      | .ok none =>
        if a.key.isEmpty then
          throw (.failure (.failed .unassigned
            "cannot access local variable 'value' where it is not associated with a value"))
        return (node, some p)
      | _ => throw .malformed
    | none =>
      let child ← read a.tidy a.value
      match node.entry? a.key with
      | .ok none => return (← orFail (node.setEntry? a.key child), none)
      | _ => throw .malformed
  | level :: rest, node => do
    let node ←
      if ← orFail (node.mentions? level) then pure node
      else orFail (node.setEntry? level (.table []))
    match ← orFail (node.entry? level) with
    | some child =>
      let (child, p) ← a.perform? read rest child
      return (← orFail (node.setEntry? level child), p)
    | none => throw .malformed

end TypstMarkup.Toml
