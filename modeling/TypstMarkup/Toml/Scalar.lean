import TypstMarkup.Toml.Access
import TypstMarkup.Value.Conversion

/-!
Texts and numbers as values. A text is first checked to end with its closing quotes, then its
character codes are resolved, then its short escapes, so a code may stand for the backslash of an
escape. A number may have a sign, a base and underscores.
-/
namespace TypstMarkup.Toml

/-! ### Texts -/

def shortEscape? (letter : Char) : Option Char :=
  match letter with
  | '0' => some '\x00'
  | 'b' => some '\x08'
  | 'f' => some '\x0c'
  | 'n' => some '\n'
  | 'r' => some '\r'
  | 't' => some '\t'
  | '"' => some '"'
  | _ => none

/-- Resolves short escapes and doubled backslashes. Character codes stay as they are. -/
def resolveShort? : List Char → Option (List Char)
  | [] => some []
  | ['\\'] => some ['\\']
  | '\\' :: letter :: rest =>
    match shortEscape? letter with
    | some c => (resolveShort? rest).map (c :: ·)
    | none =>
      if letter == '\\' then (resolveShort? rest).map ('\\' :: ·)
      else if letter == 'u' || letter == 'U' then
        (resolveShort? rest).map fun text => '\\' :: letter :: text
      else none
  | c :: rest => (resolveShort? rest).map (c :: ·)

/-- The character with a code, or the failure to make one of it. -/
def codeCharacter? (code : Nat) : Except Refusal Char :=
  if 0x7fffffff < code then
    .error (.failure (.failed .overflow "Python int too large to convert to C int"))
  else if h : code.isValidChar then .ok (Char.ofNatAux code h)
  else .error .malformed

/-- Resolves the character code of so many digits at the start of a text. -/
def resolveCode? (width : Nat) (text : List Char) : Except Refusal (List Char) := do
  let digits := text.take width
  if !digits.all fun c => c.toNat < 0x80 && (Based.digitValue? c).isSome then throw .malformed
  match digits with
  | [] => throw (.failure (.outOfRange "string"))
  | first :: more =>
    if first == 'd' || first == 'D' then
      match more.head? with
      | none => throw (.failure (.outOfRange "string"))
      | some second => if !('0' ≤ second && second ≤ '7') then throw .malformed
    let c ← codeCharacter? ((Based.digits? 16 digits).getD 0)
    return c :: text.drop width

/-- Resolves the character codes between the parts of a text. `escaped` says whether the next mark
has a backslash of its own before it, and so is none; it is judged by the first part, and after a
mark that is none by the part that follows it. -/
def resolveCodes? (mark : List Char) (width : Nat) :
    Bool → List (List Char) → Except Refusal (List Char)
  | _, [] => .ok []
  | true, part :: rest => do
    return mark ++ part ++ (← resolveCodes? mark width (Text.endsInEscape part) rest)
  | false, part :: rest => do
    let text ← resolveCode? width part
    return text ++ (← resolveCodes? mark width false rest)

/-- Resolves the character codes with a mark, if the mark occurs. -/
def resolveMarked? (letter : Char) (width : Nat) (text : List Char) :
    Except Refusal (List Char) :=
  match Text.splitOn ['\\', letter] text with
  | first :: rest => do
    return first ++ (← resolveCodes? ['\\', letter] width (Text.endsInEscape first) rest)
  | [] => .ok text

/-- Whether every backslash before the parts of a text opens an escape; `paired` says whether one
more stands right before the next part. -/
def opensEscapes : Bool → List (List Char) → Bool
  | _, [] => true
  | paired, [] :: rest => opensEscapes (!paired) rest
  | paired, (letter :: _) :: rest =>
    ((shortEscape? letter).isSome || letter == 'u' || letter == 'U' || paired) &&
      opensEscapes false rest

/-- Whether the parts of a text between its quotes make up one text: nothing but quotes comes after
the closing ones. `count` counts the quotes of a text over several lines. -/
def isClosedOnce (block : Bool) : Bool → Nat → List (List Char) → Bool
  | _, _, [] => true
  | closed, count, [] :: rest =>
    if block then isClosedOnce block closed (count + 1) rest
    else isClosedOnce block true count rest
  | closed, count, part :: rest =>
    if Text.endsInEscape part then isClosedOnce block closed count rest
    else if closed then false
    else if !block || 1 < count then isClosedOnce block true count rest
    else isClosedOnce block false 0 rest

def textOf? (quote : Char) (value : List Char) : Except Refusal String := do
  let closed := match (value.drop 1).splitOn quote with
    | [] :: [] :: parts => isClosedOnce true false 0 parts
    | parts => isClosedOnce false false 0 parts
  if !closed then throw .malformed
  let mut text := value
  if quote == '"' then
    if !opensEscapes false ((value.splitOn '\\').drop 1) then throw .malformed
    text ← resolveMarked? 'U' 8 (← resolveMarked? 'u' 4 value)
    match resolveShort? text with
    | some resolved => text := resolved
    | none => throw .malformed
  let tripled := match text with
    | [_, c] => c == quote
    | _ :: c :: d :: _ => c == quote && d == quote
    | _ => false
  return String.ofList (Text.inner 1 (if tripled then Text.inner 2 text else text))

/-! ### Numbers -/

/-- Whether a number is written without needless zeros in front and with underscores between digits
only. -/
def isTidyNumber (text : List Char) : Bool :=
  match Text.strip text with
  | [] => false
  | '_' :: _ => false
  | first :: rest =>
    if rest.getLast? == some '_' then false
    else if Text.occursIn ['_', '.'] (first :: rest) ||
        Text.occursIn ['.', '_'] (first :: rest) then
      false
    else
      match rest with
      | [] => true
      | second :: _ =>
        if first == '0' && !(second == '.' || second == 'o' || second == 'b' || second == 'x') then
          false
        else
          let unsigned := if first == '+' || first == '-' then rest else first :: rest
          let zeroInFront := (first == '+' || first == '-') && match unsigned with
            | '0' :: c :: _ => c != '.'
            | _ => false
          !zeroInFront && !Text.occursIn ['_', '_'] unsigned

/-- The floating point number with the sign of a minus in front of it taken off; zero has none. -/
def negated (x : Binary64) : Binary64 :=
  (Binary64.zero false).sub x

def unsignedNumber? (text : List Char) : Option Node :=
  let isPointed := text.contains '.'
  if isPointed || (!text.contains 'x' && (text.contains 'e' || text.contains 'E')) then
    if text.getLast? == some '.' && text.count '.' == 1 then none
    else if text.head?.any Char.isDigit then (Text.readFloating? text).map .float
    else none
  else
    let lowered := Text.lower text
    if lowered == ['i', 'n', 'f'] || lowered == ['n', 'a', 'n'] then
      (Text.readFloating? text).map .float
    else (Based.ofAnyBase? text).map .integer

def number? (text : List Char) : Option Node :=
  match text with
  | '-' :: rest =>
    match unsignedNumber? (rest.filter (· != '_')) with
    | some (.float x) => some (.float (negated x))
    | some (.integer n) => some (.integer (-n))
    | other => other
  | '+' :: rest => unsignedNumber? (rest.filter (· != '_'))
  | rest => unsignedNumber? (rest.filter (· != '_'))

/-- Reads a value that is neither a text nor a container; `tidy` says whether it is written as
numbers are. -/
def scalar? (tidy : Bool) (text : List Char) : Except Refusal Node :=
  match clockNumbers? text with
  | some (hour, minute, second, microsecond) =>
    match Clock.ofNumbers? hour minute second microsecond with
    | some c => .ok (.moment (.clock c))
    | none => .error .malformed
  | none =>
    match Moment.ofText? text with
    | some m => .ok (.moment m)
    | none =>
      if !tidy then .error .malformed
      else
        match number? text with
        | some node => .ok node
        | none => .error .malformed

end TypstMarkup.Toml
