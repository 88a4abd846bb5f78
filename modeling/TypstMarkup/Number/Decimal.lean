import TypstMarkup.Number.Power
import TypstMarkup.Text.Blank
import TypstMarkup.Text.Digit
import TypstMarkup.Text.Case

/-!
Decimal numbers that remember their trailing zeros: a signed coefficient and a power of ten, the
infinities, and quiet or signalling NaNs with a diagnostic number.
-/
namespace TypstMarkup

inductive Decimal where
  | finite (negative : Bool) (coefficient : Nat) (exponent : Int)
  | infinite (negative : Bool)
  | nan (negative signalling : Bool) (diagnostic : Nat)
deriving DecidableEq, Repr, Inhabited

namespace Decimal

/-- The written form without its sign. The point stands in the coefficient while the number is not
too small; otherwise one digit stands before the point and an exponent follows. -/
def magnitudeText (coefficient : Nat) (exponent : Int) : List Char :=
  let digits := (toString coefficient).toList
  let left : Int := exponent + digits.length
  let point : Int := if exponent ≤ 0 && -6 < left then left else 1
  let body :=
    if point ≤ 0 then '0' :: '.' :: (List.replicate (-point).toNat '0' ++ digits)
    else if (digits.length : Int) ≤ point then
      digits ++ List.replicate (point.toNat - digits.length) '0'
    else digits.take point.toNat ++ '.' :: digits.drop point.toNat
  if left = point then body
  else body ++ 'E' :: (if left < point then '-' else '+') ::
    (toString (left - point).natAbs).toList

def toText : Decimal → String
  | .finite negative coefficient exponent =>
    String.ofList ((if negative then ['-'] else []) ++ magnitudeText coefficient exponent)
  | .infinite negative => (if negative then "-" else "") ++ "Infinity"
  | .nan negative signalling diagnostic =>
    (if negative then "-" else "") ++ (if signalling then "sNaN" else "NaN") ++
      (if diagnostic == 0 then "" else toString diagnostic)

/-- Reads a possibly empty run of decimal digits as a number and its length. -/
def readDigits (text : List Char) : Nat × Nat × List Char :=
  let digits := text.takeWhile fun c => (Text.decimalValue? c).isSome
  ((Text.decimalNumber? digits).getD 0, digits.length, text.drop digits.length)

/-- Reads an exponent part that ends the text; an empty rest is the exponent zero. -/
def readExponent? : List Char → Option Int
  | [] => some 0
  | 'e' :: '-' :: rest => (Text.decimalNumber? rest).map fun n => -(n : Int)
  | 'e' :: '+' :: rest => (Text.decimalNumber? rest).map fun n => (n : Int)
  | 'e' :: rest => (Text.decimalNumber? rest).map fun n => (n : Int)
  | _ => none

def readFinite? (negative : Bool) (text : List Char) : Option Decimal :=
  let (whole, wholeLength, rest) := readDigits text
  let (part, partLength, rest) :=
    match rest with
    | '.' :: rest => readDigits rest
    | rest => (0, 0, rest)
  if wholeLength + partLength == 0 then none
  else (readExponent? rest).map fun exponent =>
    .finite negative (whole * tenTo partLength + part) (exponent - partLength)

def readNan? (negative signalling : Bool) (text : List Char) : Option Decimal :=
  if text.isEmpty then some (.nan negative signalling 0)
  else (Text.decimalNumber? text).map fun n => .nan negative signalling n

/-- Reads a number without its sign, letters already in lower case. -/
def readUnsigned? (negative : Bool) (text : List Char) : Option Decimal :=
  match text with
  | ['i', 'n', 'f'] | ['i', 'n', 'f', 'i', 'n', 'i', 't', 'y'] => some (.infinite negative)
  | 'n' :: 'a' :: 'n' :: rest => readNan? negative false rest
  | 's' :: 'n' :: 'a' :: 'n' :: rest => readNan? negative true rest
  | text => readFinite? negative text

/-- Reads a decimal. Blanks at the ends and underscores are ignored, and letters may have either
case. -/
def ofText? (text : List Char) : Option Decimal :=
  match Text.lower ((Text.strip text).filter (· != '_')) with
  | '-' :: rest => readUnsigned? true rest
  | '+' :: rest => readUnsigned? false rest
  | text => readUnsigned? false text

def toRat? : Decimal → Option Rat
  | .finite negative coefficient exponent =>
    let signed : Int := if negative then -(coefficient : Int) else coefficient
    some (if 0 ≤ exponent then (signed * tenTo exponent.toNat : Int)
      else mkRat signed (tenTo (-exponent).toNat))
  | _ => none

end Decimal

end TypstMarkup
