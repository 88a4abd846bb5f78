import TypstMarkup.Text.Case
import TypstMarkup.Toml.Moment
import TypstMarkup.Toml.Quoted
import TypstMarkup.Value.Conversion

/-!
Values that are words: numbers, days and times of day. Only a day may hold a space: the time of day
may come after it, and so may blanks that are no part of it.
-/
namespace TypstMarkup.Toml

def endsWord (c : Char) : Bool :=
  isSpacing c || c == '\n' || c == '\r' || c == '#' || c == ',' || c == ']' || c == '}'

/-! ### Numbers -/

/-- Drops the underscores between two digits; `inNumber` says whether a digit comes before. -/
def joinDigits (isDigit : Char → Bool) : Bool → List Char → List Char
  | _, [] => []
  | true, '_' :: c :: rest =>
    if isDigit c then joinDigits isDigit true (c :: rest)
    else '_' :: joinDigits isDigit false (c :: rest)
  | _, c :: rest => c :: joinDigits isDigit (isDigit c) rest

/-- Whether an unsigned word is written as numbers are: no zero stands in front of another digit,
only a number without a sign has an announced base, and after a sign no point comes first. -/
def startsAsNumber (signed : Bool) (word : List Char) : Bool :=
  match word with
  | '0' :: c :: _ => c == '.' || c == 'e' || !signed && (c == 'o' || c == 'x' || c == 'b')
  | '.' :: _ :: _ => !signed
  | _ => true

def baseOf (word : List Char) : Nat :=
  match word with
  | '0' :: 'b' :: _ => 2
  | '0' :: 'o' :: _ => 8
  | '0' :: 'x' :: _ => 16
  | _ => 10

def isDigitIn (base : Nat) (c : Char) : Bool :=
  c.toNat < 0x80 && ((Based.digitValue? c).any (· < base))

/-- Whether a word is a number. Digits follow every point. -/
def isNumber (word : List Char) : Bool :=
  let (sign, unsigned) := match word with
    | '+' :: rest => (['+'], rest)
    | '-' :: rest => (['-'], rest)
    | rest => ([], rest)
  let base := baseOf unsigned
  let digits := Text.lower (joinDigits (isDigitIn base) false unsigned)
  let units := digits.takeWhile (· != 'e')
  startsAsNumber (!sign.isEmpty) unsigned && !digits.contains '_' && digits.getLast? != some '.' &&
    (base == 16 || units.getLast? != some '.') &&
    ((Based.ofText? base (sign ++ digits)).isSome ||
      (Text.readFloating? (sign ++ digits)).isSome)

/-! ### Moments -/

def twoDigits? : List Char → Option (Int × List Char)
  | a :: b :: rest =>
    if a.isDigit && b.isDigit then (Text.decimalNumber? [a, b]).map fun n => ((n : Int), rest)
    else none
  | _ => none

def skip? (c : Char) : List Char → Option (List Char)
  | d :: rest => if d == c then some rest else none
  | [] => none

def afterDay? (text : List Char) : Option (List Char) := do
  let (year, rest) := text.span Char.isDigit
  let (month, rest) ← twoDigits? (← skip? '-' rest)
  let (day, rest) ← twoDigits? (← skip? '-' rest)
  let _ ← Day.ofNumbers? (← Text.decimalNumber? year) month day
  return rest

/-- What comes after the time of day that a text starts with. -/
def afterClock? (text : List Char) : Option (List Char) := do
  let (hour, rest) ← twoDigits? text
  let (minute, rest) ← twoDigits? (← skip? ':' rest)
  let (second, rest) ← twoDigits? (← skip? ':' rest)
  let _ ← Clock.ofNumbers? hour minute second 0
  match rest with
  | '.' :: c :: rest => if c.isDigit then return rest.dropWhile Char.isDigit else none
  | rest => return rest

/-- Whether a text is an offset, or empty. -/
def endsInstant (text : List Char) : Bool :=
  match text with
  | [] | ['Z'] | ['z'] => true
  | sign :: rest => (sign == '+' || sign == '-' || sign == '|') &&
    match twoDigits? rest with
    | some (hour, ':' :: rest) =>
      match twoDigits? rest with
      | some (minute, []) => hour < 24 && minute < 60
      | _ => false
    | _ => false

def isDay (word : List Char) : Bool :=
  afterDay? word == some []

/-- Whether a text is a time of day that may have an offset. -/
def isClockOfDay (text : List Char) : Bool :=
  (afterClock? text).any endsInstant

def isInstant (word : List Char) : Bool :=
  match afterDay? word with
  | some (c :: rest) => (c == 'T' || c == 't') && isClockOfDay rest
  | some [] => false
  | none => afterClock? word == some []

/-! ### Words -/

/-- Reads a value that is a word: its text, the blanks that were read with it, and what comes after
it. -/
def word? (source : List Char) : Except Trouble (List Char × List Char × List Char) :=
  let (word, rest) := source.span fun c => !endsWord c
  if isDay word then
    let (behind, rest) := rest.span fun c => c == ' ' || !endsWord c
    let clock := (behind.reverse.dropWhile Text.isBlank).reverse
    match clock with
    | [] => .ok (word, behind, rest)
    | _ :: time =>
      if isClockOfDay time then .ok (word ++ clock, behind.drop clock.length, rest)
      else .error .malformed
  else if isInstant word || isNumber word then .ok (word, [], rest)
  else .error .malformed

end TypstMarkup.Toml
