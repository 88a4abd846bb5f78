import TypstMarkup.Number.Binary64

/-!
Shortest decimal digits. The reals that round to a floating point number form an interval around it,
closed for an even significand. The digits chosen are the fewest whose decimal lies in the interval,
the nearest to the number among those, and on a tie the even one.
-/
namespace TypstMarkup.Binary64

/-- A decimal with the value `digits * 10 ^ exponent`. -/
structure Digits where
  digits : Nat
  exponent : Int
deriving DecidableEq, Repr

/-- Four times the ends of the rounding interval and the number itself, over one denominator. -/
structure Neighbourhood where
  below : Nat
  centre : Nat
  above : Nat
  denominator : Nat
  closed : Bool

/-- The rounding interval; below a power of two the gap to the next smaller number halves. -/
def neighbourhood (significand : Nat) (exponent : Int) : Neighbourhood :=
  let (n, d) := magnitude 1 (exponent - 2)
  let gap := if significand == twoTo 52 && minExponent < exponent then 1 else 2
  { below := (4 * significand - gap) * n
    centre := 4 * significand * n
    above := (4 * significand + 2) * n
    denominator := d
    closed := significand % 2 == 0 }

/-- Whether `candidate * 10 ^ exponent` lies in the interval. -/
def Neighbourhood.holds (i : Neighbourhood) (candidate : Nat) (exponent : Int) : Bool :=
  let value := candidate * tenTo exponent.toNat * i.denominator
  let unit := tenTo (-exponent).toNat
  if i.closed then i.below * unit ≤ value && value ≤ i.above * unit
  else i.below * unit < value && value < i.above * unit

/-- The least power of ten, counted up from `exponent`, that is above the number. -/
def ceilingExponent (numerator denominator : Nat) : Nat → Int → Int
  | 0, exponent => exponent
  | fuel + 1, exponent =>
    if numerator * tenTo (-exponent).toNat < denominator * tenTo exponent.toNat then exponent
    else ceilingExponent numerator denominator fuel (exponent + 1)

/-- The better of the two decimals around the number on the grid of `10 ^ exponent`, if one of them
lies in the interval. -/
def onGrid (i : Neighbourhood) (exponent : Int) : Option Digits :=
  let numerator := i.centre * tenTo (-exponent).toNat
  let unit := i.denominator * tenTo exponent.toNat
  let low := numerator / unit
  let nearest := roundQuotient numerator unit
  let other := if nearest == low then low + 1 else low
  if i.holds nearest exponent then some ⟨nearest, exponent⟩
  else if i.holds other exponent then some ⟨other, exponent⟩
  else none

def finerGrids (i : Neighbourhood) : Nat → Int → Digits
  | 0, exponent => ⟨roundQuotient (i.centre * tenTo (-exponent).toNat)
      (i.denominator * tenTo exponent.toNat), exponent⟩
  | fuel + 1, exponent => (onGrid i exponent).getD (finerGrids i fuel (exponent - 1))

def Digits.trim : Nat → Digits → Digits
  | 0, d => d
  | fuel + 1, d =>
    if d.digits != 0 && d.digits % 10 == 0 then trim fuel ⟨d.digits / 10, d.exponent + 1⟩ else d

/-- The shortest digits of a positive finite number; zero has the one digit zero. -/
def shortest (significand : Nat) (exponent : Int) : Digits :=
  if significand == 0 then ⟨0, 0⟩
  else
    let i := neighbourhood significand exponent
    let start : Int := ((i.centre.log2 : Int) - i.denominator.log2 - 4) * 3 / 10
    let top := ceilingExponent i.centre i.denominator 400 (start - 2)
    (finerGrids i 17 (top - 1)).trim 20

end TypstMarkup.Binary64
