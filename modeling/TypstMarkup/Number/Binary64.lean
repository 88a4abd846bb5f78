import TypstMarkup.Number.Power

/-!
Binary floating point of 64 bits. A finite number is a signed multiple of a power of two; arithmetic
is exact on the rationals and rounded once, to the nearest number, ties to an even significand.
The sign of a NaN is kept because it can be observed; its payload is not.
-/
namespace TypstMarkup

/-- A 64-bit floating point number. Finite numbers are normalised: the significand is below 2^53,
and it is below 2^52 only under the least exponent. -/
inductive Binary64 where
  | finite (negative : Bool) (significand : Nat) (exponent : Int)
  | infinite (negative : Bool)
  | nan (negative : Bool)
deriving DecidableEq, Repr, Inhabited

namespace Binary64

def minExponent : Int := -1074

def maxExponent : Int := 971

def zero (negative : Bool) : Binary64 :=
  .finite negative 0 minExponent

def ofBits (bits : Nat) : Binary64 :=
  let negative := bits / twoTo 63 % 2 == 1
  let biased : Nat := bits / twoTo 52 % twoTo 11
  let fraction : Nat := bits % twoTo 52
  if biased == 2047 then
    if fraction == 0 then .infinite negative else .nan negative
  else if biased == 0 then .finite negative fraction minExponent
  else .finite negative (twoTo 52 + fraction) (biased - 1075)

/-- Rounds a quotient to the nearest integer, a half to the even one. -/
def roundQuotient (numerator denominator : Nat) : Nat :=
  let q := numerator / denominator
  let twice := 2 * (numerator % denominator)
  if twice < denominator then q
  else if denominator < twice then q + 1
  else q + q % 2

/-- The quotient scaled by a power of two, as a fraction. -/
def scaled (numerator denominator : Nat) (exponent : Int) : Nat × Nat :=
  if 0 ≤ exponent then (numerator, denominator * twoTo exponent.toNat)
  else (numerator * twoTo (-exponent).toNat, denominator)

/-- The nearest number to a non-negative fraction, with the given sign. -/
def ofFraction (negative : Bool) (numerator denominator : Nat) : Binary64 :=
  if numerator == 0 then zero negative
  else
    let guess : Int := (numerator.log2 : Int) - denominator.log2 - 53
    let (n, d) := scaled numerator denominator guess
    let exponent := max minExponent (if n / d < twoTo 53 then guess else guess + 1)
    let (n, d) := scaled numerator denominator exponent
    let rounded := roundQuotient n d
    let (significand, exponent) :=
      if rounded == twoTo 53 then (twoTo 52, exponent + 1) else (rounded, exponent)
    if maxExponent < exponent then .infinite negative
    else .finite negative significand exponent

/-- The nearest number to a rational; zero is positive. -/
def ofRat (q : Rat) : Binary64 :=
  ofFraction (q.num < 0) q.num.natAbs q.den

/-- The value of a finite number, without its sign, as a fraction. -/
def magnitude (significand : Nat) (exponent : Int) : Nat × Nat :=
  if 0 ≤ exponent then (significand * twoTo exponent.toNat, 1)
  else (significand, twoTo (-exponent).toNat)

def toRat? : Binary64 → Option Rat
  | .finite negative significand exponent =>
    let (n, d) := magnitude significand exponent
    some (mkRat (if negative then -(n : Int) else n) d)
  | _ => none

def isNegative : Binary64 → Bool
  | .finite negative _ _ => negative
  | .infinite negative => negative
  | .nan negative => negative

def abs : Binary64 → Binary64
  | .finite _ significand exponent => .finite false significand exponent
  | .infinite _ => .infinite false
  | .nan _ => .nan false

def neg : Binary64 → Binary64
  | .finite negative significand exponent => .finite (!negative) significand exponent
  | .infinite negative => .infinite (!negative)
  | .nan negative => .nan (!negative)

def isZero : Binary64 → Bool
  | .finite _ significand _ => significand == 0
  | _ => false

/-- Numerical order; absent when a NaN is involved. -/
def compare? (x y : Binary64) : Option Ordering :=
  match x, y with
  | .nan _, _ | _, .nan _ => none
  | .infinite a, .infinite b => some (if a == b then .eq else if a then .lt else .gt)
  | .infinite a, _ => some (if a then .lt else .gt)
  | _, .infinite b => some (if b then .gt else .lt)
  | x, y =>
    match x.toRat?, y.toRat? with
    | some p, some q => some (if p < q then .lt else if p = q then .eq else .gt)
    | _, _ => none

/-- Sum. Two zeros of different sign, or an exact cancellation, give the positive zero. -/
def add (x y : Binary64) : Binary64 :=
  match x, y with
  | .nan s, _ => .nan s
  | _, .nan s => .nan s
  | .infinite a, .infinite b => if a == b then .infinite a else .nan true
  | .infinite a, _ => .infinite a
  | _, .infinite b => .infinite b
  | x, y =>
    match x.toRat?, y.toRat? with
    | some p, some q =>
      if p + q = 0 then zero (x.isNegative && y.isNegative) else ofRat (p + q)
    | _, _ => .nan false

def sub (x y : Binary64) : Binary64 :=
  match y with
  | .nan s => match x with
    | .nan t => .nan t
    | _ => .nan s
  | y => x.add y.neg

def mul (x y : Binary64) : Binary64 :=
  let negative := x.isNegative != y.isNegative
  match x, y with
  | .nan s, _ => .nan s
  | _, .nan s => .nan s
  | .infinite _, y => if y.isZero then .nan true else .infinite negative
  | x, .infinite _ => if x.isZero then .nan true else .infinite negative
  | x, y =>
    match x.toRat?, y.toRat? with
    | some p, some q => ofFraction negative (p * q).num.natAbs (p * q).den
    | _, _ => .nan false

/-- Quotient by a number that is not zero. -/
def div (x y : Binary64) : Binary64 :=
  let negative := x.isNegative != y.isNegative
  match x, y with
  | .nan s, _ => .nan s
  | _, .nan s => .nan s
  | .infinite _, .infinite _ => .nan true
  | .infinite _, _ => .infinite negative
  | _, .infinite _ => zero negative
  | x, y =>
    match x.toRat?, y.toRat? with
    | some p, some q => ofFraction negative (p / q).num.natAbs (p / q).den
    | _, _ => .nan false

end Binary64

end TypstMarkup
