import TypstMarkup.Number.Notation

/-!
Fractions written with a given number of digits. The digits dropped are rounded to the nearest, a
half to the even neighbour; the rounding is exact because it is done on the fraction.
-/
namespace TypstMarkup.Binary64

/-- A fraction with a given number of places: the digits of its whole part, and the places. -/
def fixedDigits (numerator denominator places : Nat) : List Char × List Char :=
  let digits := padFront (places + 1)
    (digitText (roundQuotient (numerator * tenTo places) denominator))
  digits.splitAt (digits.length - places)

/-- The exponent of the leading digit of a fraction; zero has the exponent zero. -/
def leadingExponent (numerator denominator : Nat) : Int :=
  if numerator = 0 then 0
  else
    let start : Int := ((numerator.log2 : Int) - denominator.log2 - 4) * 3 / 10
    ceilingExponent numerator denominator 400 (start - 2) - 1

/-- A fraction with a given number of digits, and the exponent of the leading one. -/
def leadingDigits (numerator denominator count : Nat) : List Char × Int :=
  let exponent := leadingExponent numerator denominator
  let shift := (count : Int) - 1 - exponent
  let rounded := roundQuotient (numerator * tenTo shift.toNat) (denominator * tenTo (-shift).toNat)
  if rounded = tenTo count then (digitText (tenTo (count - 1)), exponent + 1)
  else (padFront count (digitText rounded), exponent)

def dropTrailingZeros (digits : List Char) : List Char :=
  (digits.reverse.dropWhile (· == '0')).reverse

/-- How a magnitude is written: with places after the point, with one digit before it and an
exponent, or in the shorter of these without trailing zeros. The last form may be asked to show
always that the number is a floating point number. -/
inductive RoundedForm where
  | fixed
  | scientific
  | general (keepPoint : Bool)
deriving DecidableEq, Repr

/-- The digits after a point; without digits the point is written only if it is asked for. -/
def afterPoint (keepPoint : Bool) (places : List Char) : List Char :=
  if places.isEmpty && !keepPoint then [] else '.' :: places

/-- A fraction in a form: the digits of its whole part, and all that follows them. With `full` set,
the point and trailing zeros are kept. -/
def roundedText (form : RoundedForm) (precision : Nat) (full : Bool)
    (numerator denominator : Nat) : List Char × List Char :=
  match form with
  | .fixed =>
    let (whole, places) := fixedDigits numerator denominator precision
    (whole, afterPoint full places)
  | .scientific =>
    let (digits, exponent) := leadingDigits numerator denominator (precision + 1)
    (digits.take 1, afterPoint full (digits.drop 1) ++ exponentText exponent)
  | .general keepPoint =>
    let count := max precision 1
    let (digits, exponent) := leadingDigits numerator denominator count
    let shortened (places : List Char) := if full then places else dropTrailingZeros places
    if -4 ≤ exponent && exponent < (if keepPoint then (count : Int) - 1 else count) then
      let whole := if exponent < 0 then ['0'] else digits.take (exponent.toNat + 1)
      let places := shortened (if exponent < 0
        then List.replicate (-exponent - 1).toNat '0' ++ digits
        else digits.drop (exponent.toNat + 1))
      (whole, if keepPoint && places.isEmpty then ['.', '0'] else afterPoint full places)
    else (digits.take 1, afterPoint full (shortened (digits.drop 1)) ++ exponentText exponent)

end TypstMarkup.Binary64
