import TypstMarkup.Toml.Assignment

/-!
Values. The items of an array and the entries of a table within a value are cut apart first, each in
its own way, and then read one by one. All items of an array are of one sort.
-/
namespace TypstMarkup.Toml

/-! ### Arrays -/

/-- Cuts at the commas outside brackets; `part` holds the open part, reversed. -/
def cutOutsideBrackets (depth : Int) (part : List Char) : List Char → List (List Char)
  | [] => [part.reverse]
  | '[' :: rest => cutOutsideBrackets (depth + 1) ('[' :: part) rest
  | ']' :: rest => cutOutsideBrackets (depth - 1) (']' :: part) rest
  | ',' :: rest =>
    if depth == 0 then part.reverse :: cutOutsideBrackets depth [] rest
    else cutOutsideBrackets depth (',' :: part) rest
  | c :: rest => cutOutsideBrackets depth (c :: part) rest

/-- Whether a text ends with the quote it starts with, and no backslash takes that quote away. -/
def isBounded (text : List Char) : Bool :=
  match text with
  | [] => true
  | first :: rest =>
    text.getLast? == some first && !Text.endsInEscape rest.dropLast

/-- Whether a text opens with three quotes and at most the last of its characters is one. -/
def isOpenBlock (text : List Char) : Bool :=
  match text with
  | a :: b :: c :: _ =>
    a == b && b == c && match text.reverse with
      | _ :: y :: z :: _ => y != a && z != a
      | _ => false
  | _ => false

/-- Puts texts together that were cut at commas inside them; `joined` says whether the part in hand
was put together, and so has to be a whole text. -/
def joinTexts? (joined : Bool) (part : List Char) :
    List (List Char) → Except Refusal (List (List Char))
  | [] =>
    let text := Text.strip part
    if joined && (!isBounded text || isOpenBlock text) then
      .error (.failure (.outOfRange "list"))
    else .ok [part]
  | next :: rest =>
    let text := Text.strip part
    if isBounded text && !isOpenBlock text then do return part :: (← joinTexts? false next rest)
    else joinTexts? true (part ++ ',' :: next) rest

/-- A search for the tables in an array. -/
structure BraceScan where
  start : Nat
  depth : Nat
  inText : Bool := false

/-- Cuts out the tables of an array, from a position on and within a budget of characters. -/
def cutBraces (array : Array Char) : Nat → Nat → BraceScan → List (List Char)
  | 0, _, _ => []
  | budget + 1, position, scan =>
    if array.size ≤ position + 1 then []
    else
      let c := (array[position]?).getD ' '
      let escaped := Text.endsInEscape (array.toList.take position)
      let inText :=
        if c == '"' || c == '\'' then !(scan.inText && !escaped) else scan.inText
      let depth := if !inText && c == '{' then scan.depth + 1 else scan.depth
      if inText || c != '}' then cutBraces array budget (position + 1) { scan with depth, inText }
      else if 1 < depth then
        cutBraces array budget (position + 1) { scan with depth := depth - 1, inText }
      else
        let table := (array.toList.drop scan.start).take (position + 1 - scan.start)
        let rest := array.toList.drop (position + 2)
        let gap := (rest.takeWhile (· != '{')).length
        let start := min (position + 2 + gap) (max (array.size - 1) (position + 2))
        table :: cutBraces array budget (start + 1) ⟨start, depth, inText⟩

def itemTexts? (value : List Char) : Except Refusal (List (List Char)) :=
  let array := Text.strip value
  let body := Text.inner 1 array
  let beforeBracket := body.takeWhile (· != '[')
  if body.contains '[' && (Text.strip beforeBracket).isEmpty then
    .ok (cutOutsideBrackets 0 [] body)
  else
    let parts :=
      if (Text.strip body).head? == some '{' then
        let chars := array.toArray
        cutBraces chars (chars.size + 1) 2 ⟨1, if chars[1]? == some '{' then 1 else 0, false⟩
      else body.splitOn ','
    match parts with
    | part :: rest => if startsWithText array then joinTexts? false part rest else .ok parts
    | [] => .ok []

/-- Whether two items are of one sort: days and instants are, truth values and numbers are not. -/
def sameSort : Node → Node → Bool
  | .text _, .text _ | .integer _, .integer _ | .float _, .float _ | .boolean _, .boolean _
  | .array _, .array _ | .inline _, .inline _ | .table _, .table _
  | .moment (.clock _), .moment (.clock _) => true
  | .moment (.clock _), .moment _ | .moment _, .moment (.clock _) => false
  | .moment _, .moment _ => true
  | _, _ => false

/-- Reads items, leaving out blank ones; each is of the sort of the first. -/
def readItems? (read : List Char → Except Refusal Node) :
    List Node → List (List Char) → Except Refusal (List Node)
  | items, [] => .ok items.reverse
  | items, text :: rest =>
    let text := Text.strip text
    if text.isEmpty then readItems? read items rest
    else do
      let node ← read text
      match items.getLast? with
      | some first => if !sameSort first node then throw .malformed
      | none => pure ()
      readItems? read (node :: items) rest

/-! ### Tables within values -/

/-- Whether a value may stand in a table within a value. -/
def mayBeEntry? (value : List Char) : Except Refusal Bool :=
  match value, value.getLast? with
  | first :: _, some last =>
    .ok (first == last && (first == '"' || first == '\'') || first == '-' || first.isDigit ||
      value == ['t', 'r', 'u', 'e'] || value == ['f', 'a', 'l', 's', 'e'] ||
      first == '[' && last == ']' || first == '{' && last == '}')
  | _, _ => .error (.failure (.outOfRange "string"))

/-- Puts entries together that were cut at commas inside their values. -/
def joinEntries? (part : List Char) : List (List Char) → Except Refusal (List (List Char))
  | [] => do
    match part.dropWhile (· != '=') with
    | _ :: value => if ← mayBeEntry? (Text.strip value) then return [part] else throw .malformed
    | [] => throw .malformed
  | next :: rest => do
    match part.dropWhile (· != '=') with
    | _ :: value =>
      if ← mayBeEntry? (Text.strip value) then return part :: (← joinEntries? next rest)
      else joinEntries? (part ++ ',' :: next) rest
    | [] => throw .malformed

def entryTexts? (value : List Char) : Except Refusal (List (List Char)) :=
  match (Text.inner 1 value).splitOn ',' with
  | [part] => if (Text.strip part).isEmpty then .ok [] else joinEntries? part []
  | part :: rest => joinEntries? part rest
  | [] => .ok []

/-- Makes the assignments of some lines in a node, up to the first whose value goes on. -/
def assignAll? (read : Bool → List Char → Except Refusal Node) :
    List (List Char) → Node → Except Refusal Node
  | [], node => .ok node
  | line :: rest, node => do
    let a ← Assignment.ofLine? line
    let (node, pending) ← a.perform? read a.path node
    if pending.isSome then return node else assignAll? read rest node

/-! ### Reading -/

/-- Reads a value within a budget; `tidy` says whether it is written as numbers are. -/
def value? : Nat → Bool → List Char → Except Refusal Node
  | 0, _, _ => .error .malformed
  | budget + 1, tidy, text =>
    match text with
    | [] => .error .malformed
    | first :: _ =>
      if text == ['t', 'r', 'u', 'e'] then .ok (.boolean true)
      else if text == ['f', 'a', 'l', 's', 'e'] then .ok (.boolean false)
      else if first == '"' || first == '\'' then (textOf? first text).map .text
      else if first == '[' then do
        return .array (← readItems? (value? budget true) [] (← itemTexts? text))
      else if first == '{' then do
        assignAll? (value? budget) (← entryTexts? text) (.inline [])
      else scalar? tidy text

/-- Reads a value. What it holds is shorter than itself, so its length bounds the depth. -/
def Node.ofText? (tidy : Bool) (text : List Char) : Except Refusal Node :=
  value? (text.length + 1) tidy text

end TypstMarkup.Toml
