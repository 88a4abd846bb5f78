import TypstMarkup.Number.Power
import TypstMarkup.Text.Blank
import TypstMarkup.Text.Digit
import TypstMarkup.Text.Case

/-!
Rational numbers as they are written: an integer over another one, or digits with an optional point
and exponent. Single underscores may separate digits.
-/
namespace TypstMarkup.Ratio

/-- Reads digits that single underscores may separate: their number, how many there are, and the
rest. -/
def readRun : List Char → Nat → Nat → List Char → Nat × Nat × List Char
  | [], n, count, rest => (n, count, rest)
  | c :: more, n, count, rest =>
    match Text.decimalValue? c with
    | some d => readRun more (n * 10 + d) (count + 1) more
    | none =>
      if c = '_' && 0 < count && more.head?.any fun d => (Text.decimalValue? d).isSome then
        readRun more n count rest
      else (n, count, c :: more)

def readDigits (text : List Char) : Nat × Nat × List Char :=
  readRun text 0 0 text

/-- Reads an exponent part, or nothing at the end of the text. -/
def readExponent? : List Char → Option Int
  | [] => some 0
  | e :: rest =>
    if e = 'e' || e = 'E' then
      let (negative, rest) := match rest with
        | '-' :: rest => (true, rest)
        | '+' :: rest => (false, rest)
        | rest => (false, rest)
      match readDigits rest with
      | (n, count, []) => if count = 0 then none else some (if negative then -(n : Int) else n)
      | _ => none
    else none

/-- A written number: a numerator and a denominator that may be zero. -/
def readUnsigned? (text : List Char) : Option (Nat × Nat) :=
  match readDigits text with
  | (n, count, '/' :: rest) =>
    match readDigits rest with
    | (d, places, []) => if count = 0 || places = 0 then none else some (n, d)
    | _ => none
  | (n, count, rest) => do
    let (part, places, rest) := match rest with
      | '.' :: rest => readDigits rest
      | rest => (0, 0, rest)
    guard (0 < count + places)
    let exponent ← readExponent? rest
    let scaled := n * tenTo places + part
    if 0 ≤ exponent then return (scaled * tenTo exponent.toNat, tenTo places)
    else return (scaled, tenTo (places + (-exponent).toNat))

/-- The numerator and the denominator of a written number, blanks around it ignored. -/
def ofText? (text : List Char) : Option (Int × Nat) :=
  match Text.strip text with
  | '-' :: rest => (readUnsigned? rest).map fun (n, d) => (-(n : Int), d)
  | '+' :: rest => (readUnsigned? rest).map fun (n, d) => ((n : Int), d)
  | rest => (readUnsigned? rest).map fun (n, d) => ((n : Int), d)

end TypstMarkup.Ratio
