import TypstMarkup.Number.Shortest

/-!
Written form of floating point numbers: shortest digits, positional from 10^-4 up to below 10^16 and
scientific beyond, with at least two digits in a signed exponent.
-/
namespace TypstMarkup.Binary64

def digitText (n : Nat) : List Char :=
  (toString n).toList

def padFront (width : Nat) (digits : List Char) : List Char :=
  List.replicate (width - digits.length) '0' ++ digits

def exponentText (exponent : Int) : List Char :=
  'e' :: (if exponent < 0 then '-' else '+') :: padFront 2 (digitText exponent.natAbs)

/-- Positional notation; `point` is the place of the decimal point counted from the first digit. A
whole number ends in a point and a zero when `keepPoint` is set. -/
def positional (keepPoint : Bool) (digits : List Char) (point : Int) : List Char :=
  if point ≤ 0 then '0' :: '.' :: (List.replicate (-point).toNat '0' ++ digits)
  else if (digits.length : Int) ≤ point then
    digits ++ List.replicate (point.toNat - digits.length) '0' ++
      (if keepPoint then ['.', '0'] else [])
  else digits.take point.toNat ++ '.' :: digits.drop point.toNat

def scientific (digits : List Char) (exponent : Int) : List Char :=
  match digits with
  | [] => exponentText exponent
  | [d] => d :: exponentText exponent
  | d :: rest => d :: '.' :: rest ++ exponentText exponent

def magnitudeText (keepPoint : Bool) (significand : Nat) (exponent : Int) : List Char :=
  let d := shortest significand exponent
  let digits := digitText d.digits
  let leading := d.exponent + digits.length - 1
  if -4 ≤ leading && leading < 16 then positional keepPoint digits (leading + 1)
  else scientific digits leading

/-- The written form of a number; a whole number below 10^16 keeps `.0` when `keepPoint` is set. -/
def written (keepPoint : Bool) : Binary64 → List Char
  | .finite negative significand exponent =>
    let text := magnitudeText keepPoint significand exponent
    if negative then '-' :: text else text
  | .infinite false => ['i', 'n', 'f']
  | .infinite true => ['-', 'i', 'n', 'f']
  | .nan _ => ['n', 'a', 'n']

/-- The usual written form, which always shows that the number is a floating point number. -/
def toText (x : Binary64) : String :=
  String.ofList (x.written true)

/-- The number nearest to a decimal `digits * 10 ^ exponent`. Exponents far outside the range of the
format need no exact arithmetic. -/
def ofDecimal (negative : Bool) (digits : Nat) (exponent : Int) : Binary64 :=
  let leading := exponent + (digitText digits).length
  if digits = 0 then zero negative
  else if 400 < leading then .infinite negative
  else if leading < -400 then zero negative
  else if 0 ≤ exponent then ofFraction negative (digits * tenTo exponent.toNat) 1
  else ofFraction negative digits (tenTo (-exponent).toNat)

end TypstMarkup.Binary64
