import TypstMarkup.Fault

/-!
Conversion of values to integers and floating point numbers. Numbers are cut off toward zero or
rounded to the nearest; texts are read as written numbers, where underscores may separate digits.
-/
namespace TypstMarkup

namespace Text

/-- Whether a character may stand around a written number: blanks, the separators U+001C to U+001F
excepted. -/
def isNumberBlank (c : Char) : Bool :=
  isBlank c && !inRanges [(0x1c, 0x1f)] c.toNat

def stripNumber (text : List Char) : List Char :=
  ((text.dropWhile isNumberBlank).reverse.dropWhile isNumberBlank).reverse

/-- Splits off a sign; the first component says whether it is a minus. -/
def readSign : List Char → Bool × List Char
  | '-' :: rest => (true, rest)
  | '+' :: rest => (false, rest)
  | text => (false, text)

/-- Removes underscores that stand singly between digits, or fails on any other underscore. -/
def dropSeparators : Bool → List Char → Option (List Char)
  | _, [] => some []
  | afterDigit, '_' :: rest =>
    match rest with
    | c :: _ =>
      if afterDigit && (decimalValue? c).isSome then dropSeparators false rest else none
    | [] => none
  | _, c :: rest => (dropSeparators (decimalValue? c).isSome rest).map (c :: ·)

/-- Splits off the decimal digits that a text starts with, underscores that stand singly between
them left out, or fails on any other underscore among them. -/
def splitDigits : Bool → List Char → Option (List Char × List Char)
  | _, [] => some ([], [])
  | afterDigit, c :: rest =>
    if (decimalValue? c).isSome then
      (splitDigits true rest).map fun (digits, rest) => (c :: digits, rest)
    else if c == '_' then
      if afterDigit && (rest.head?.bind decimalValue?).isSome then splitDigits false rest else none
    else some ([], c :: rest)

/-- Reads a signed decimal integer, blanks around it ignored. The digits that a text starts with are
counted before it is known whether anything else follows. -/
def readInteger? (text : List Char) : Except Fault (Option Int) :=
  let (negative, rest) := readSign (stripNumber text)
  match splitDigits false rest with
  | none => .ok none
  | some (digits, rest) =>
    if 4300 < digits.length then .error (.tooManyDigitsToRead digits.length)
    else if rest.isEmpty then
      .ok ((decimalNumber? digits).map fun (n : Nat) => if negative then -(n : Int) else n)
    else .ok none

def asciiDigits (text : List Char) : List Char :=
  text.map fun c =>
    match decimalValue? c with
    | some n => Nat.digitChar n
    | none => c

/-- Reads a floating point number: digits with an optional point and exponent, an infinity or a
NaN. -/
def readFloating? (text : List Char) : Option Binary64 :=
  let (negative, rest) := readSign (stripNumber text)
  match lower rest with
  | ['i', 'n', 'f'] | ['i', 'n', 'f', 'i', 'n', 'i', 't', 'y'] => some (.infinite negative)
  | ['n', 'a', 'n'] => some (.nan negative)
  | rest =>
    match dropSeparators false (asciiDigits rest) with
    | none => none
    | some rest =>
      match Decimal.readFinite? negative rest with
      | some (.finite _ coefficient exponent) =>
        some (Binary64.ofDecimal negative coefficient exponent)
      | _ => none

end Text

namespace Value

def truncated (q : Rat) : Int :=
  q.num.tdiv q.den

def toInteger? (v : Value) : Except Fault Int :=
  match v.core with
  | .bool b => .ok (if b then 1 else 0)
  | .int n => .ok n
  | .flags f => .ok f.number
  | .float x =>
    match x, x.toRat? with
    | _, some q => .ok (truncated q)
    | .nan _, _ => .error (.failed .valueError "cannot convert float NaN to integer")
    | _, _ => .error (.failed .overflow "cannot convert float infinity to integer")
  | .decimal d =>
    match d, d.toRat? with
    | _, some q => .ok (truncated q)
    | .nan _ _ _, _ => .error (.failed .valueError "cannot convert NaN to integer")
    | _, _ => .error (.failed .overflow "cannot convert Infinity to integer")
  | .fraction q => .ok (truncated q)
  | .str text | .markup text => do
    match ← Text.readInteger? text.toList with
    | some n => .ok n
    | none => .error (.notANumber (Text.quotedString text))
  | .char c => do
    match ← Text.readInteger? [c] with
    | some n => .ok n
    | none => .error (.notANumber (Text.quotedString (String.singleton c)))
  | _ =>
    .error (.failed .typeError ("int() argument must be a string, a bytes-like object or a real " ++
      s!"number, not '{v.kind.operandName}'"))

/-- The nearest floating point number to an integer, unless it is out of range. -/
def floatOfInt? (n : Int) : Except Fault Binary64 :=
  match Binary64.ofRat n with
  | .infinite _ => .error (.failed .overflow "int too large to convert to float")
  | x => .ok x

def toFloating? (v : Value) : Except Fault Binary64 :=
  match v.core with
  | .float x => .ok x
  | .bool b => floatOfInt? (if b then 1 else 0)
  | .int n => floatOfInt? n
  | .flags f => floatOfInt? f.number
  | .decimal (.finite negative coefficient exponent) =>
    .ok (Binary64.ofDecimal negative coefficient exponent)
  | .decimal (.infinite negative) => .ok (.infinite negative)
  | .decimal (.nan negative signalling _) =>
    if signalling then .error (.failed .valueError "cannot convert signaling NaN to float")
    else .ok (.nan negative)
  | .fraction q =>
    match Binary64.ofRat q with
    | .infinite _ => .error (.failed .overflow "integer division result too large for a float")
    | x => .ok x
  | .str text | .markup text =>
    match Text.readFloating? text.toList with
    | some x => .ok x
    | none =>
      .error (.failed .valueError
        s!"could not convert string to float: {Text.quotedString text}")
  | .char c =>
    match Text.readFloating? [c] with
    | some x => .ok x
    | none =>
      .error (.failed .valueError
        s!"could not convert string to float: {Text.quotedString (String.singleton c)}")
  | _ =>
    .error (.failed .typeError
      s!"float() argument must be a string or a real number, not '{v.kind.operandName}'")

end Value

end TypstMarkup
