import TypstMarkup.Value.Build
import TypstMarkup.Markup.Escape
import TypstMarkup.Value.Interpolation

/-!
Operators on values. Numbers of different kinds meet at the more general one: integers, fractions,
floating point numbers, complex numbers; decimals meet integers only. Sequences can be joined and
repeated, and a text with directives is filled by the remainder operator.
-/
namespace TypstMarkup

namespace Decimal

/-- Rounds a coefficient to at most 28 digits, a half to the even neighbour. -/
def rounded (negative : Bool) (coefficient : Nat) (exponent : Int) : Decimal :=
  let excess := (toString coefficient).length - 28
  if excess = 0 then .finite negative coefficient exponent
  else
    let cut := Binary64.roundQuotient coefficient (tenTo excess)
    if cut = tenTo 28 then .finite negative (tenTo 27) (exponent + excess + 1)
    else .finite negative cut (exponent + excess)

/-- Sum, or the absence of a value for infinities of different signs and signalling NaNs. -/
def add? (x y : Decimal) : Option Decimal :=
  match x, y with
  | .nan _ true _, _ | _, .nan _ true _ => none
  | .nan s q d, _ | _, .nan s q d => some (.nan s q d)
  | .infinite a, .infinite b => if a == b then some (.infinite a) else none
  | .infinite a, _ | _, .infinite a => some (.infinite a)
  | .finite a m e, .finite b n f =>
    let low := min e f
    let left : Int := (if a then -1 else 1) * (m * tenTo (e - low).toNat : Nat)
    let right : Int := (if b then -1 else 1) * (n * tenTo (f - low).toNat : Nat)
    let sum := left + right
    some (rounded (if sum = 0 then a && b else decide (sum < 0)) sum.natAbs low)

def neg : Decimal → Decimal
  | .finite negative coefficient exponent =>
    rounded (if coefficient = 0 then false else !negative) coefficient exponent
  | .infinite negative => .infinite (!negative)
  | .nan negative signalling diagnostic => .nan (!negative) signalling diagnostic

def abs : Decimal → Decimal
  | .finite _ coefficient exponent => rounded false coefficient exponent
  | .infinite _ => .infinite false
  | .nan _ signalling diagnostic => .nan false signalling diagnostic

/-- Product, or the absence of a value for zero times an infinity and signalling NaNs. -/
def mul? (x y : Decimal) : Option Decimal :=
  match x, y with
  | .nan _ true _, _ | _, .nan _ true _ => none
  | .nan s q d, _ | _, .nan s q d => some (.nan s q d)
  | .infinite a, .infinite b => some (.infinite (a != b))
  | .infinite a, .finite b n _ | .finite b n _, .infinite a =>
    if n = 0 then none else some (.infinite (a != b))
  | .finite a m e, .finite b n f => some (rounded (a != b) (m * n) (e + f))

end Decimal

inductive Operator where
  | add | sub | mul | matMul | div | floorDiv | mod | pow | shiftLeft | shiftRight
  | bitAnd | bitOr | bitXor
deriving DecidableEq, Repr

def Operator.sign : Operator → String
  | .add => "+"
  | .sub => "-"
  | .mul => "*"
  | .matMul => "@"
  | .div => "/"
  | .floorDiv => "//"
  | .mod => "%"
  | .pow => "** or pow()"
  | .shiftLeft => "<<"
  | .shiftRight => ">>"
  | .bitAnd => "&"
  | .bitOr => "|"
  | .bitXor => "^"

inductive Number where
  | int (n : Int)
  | fraction (q : Rat)
  | float (x : Binary64)
  | complex (re im : Binary64)
  | decimal (d : Decimal)

namespace Number

def ofValue? (v : Value) : Option Number :=
  match v.core with
  | .fraction q => some (.fraction q)
  | .float x => some (.float x)
  | .complex re im => some (.complex re im)
  | .decimal d => some (.decimal d)
  | v => v.int?.map .int

def byZero (text : String) : Except Fault Value :=
  .error (.failed .zeroDivision text)

/-- A power as the platform's mathematical library rounds it. -/
def floatPower (x y : Binary64) : Binary64 :=
  ofPlatform (Float.pow (toPlatform x) (toPlatform y))
where
  /-- The platform's number with the same value. -/
  toPlatform : Binary64 → Float
    | .finite negative significand exponent =>
      let magnitude := Float.ofInt (significand : Int)
      let scaled := magnitude.scaleB exponent
      if negative then -scaled else scaled
    | .infinite negative => if negative then -1.0 / 0.0 else 1.0 / 0.0
    | .nan _ => 0.0 / 0.0
  /-- The number with the same value as the platform's. -/
  ofPlatform (x : Float) : Binary64 :=
    Binary64.ofBits x.toBits.toNat

def ratPower (q : Rat) (exponent : Nat) : Rat :=
  mkRat (q.num.pow exponent) (q.den.pow exponent)

/-- A power of floating point numbers. Powers with a small whole exponent are computed exactly and
rounded once. -/
def powFloats (x y : Binary64) : Except Fault Value :=
  let overflow : Except Fault Value :=
    .error (.failed .overflow "(34, 'Numerical result out of range')")
  if x.isZero && y.isNegative && !y.isZero then
    byZero "0.0 cannot be raised to a negative power"
  else
    let general : Except Fault Value :=
      match floatPower x y, x, y with
      | .infinite _, .finite _ _ _, .finite _ _ _ => overflow
      | r, _, _ => .ok (.float r)
    match x.toRat?, y.toRat? with
    | some p, some q =>
      if q.den = 1 && q.num.natAbs ≤ 64 && p ≠ 0 then
        let power := ratPower p q.num.natAbs
        let exact := if q.num < 0 then power⁻¹ else power
        match Binary64.ofRat exact with
        | .infinite _ => overflow
        | r => .ok (.float r)
      else general
    | _, _ => general

/-- A power of integers; a negative exponent leads to a floating point number. -/
def powInts (m n : Int) : Except Fault Value :=
  if 0 ≤ n then .ok (.int (m.pow n.toNat))
  else if m = 0 then byZero "0.0 cannot be raised to a negative power"
  else do powFloats (← Value.floatOfInt? m) (← Value.floatOfInt? n)

def powFraction (q : Rat) (n : Int) : Except Fault Value :=
  if 0 ≤ n then .ok (.fraction (ratPower q n.toNat))
  else if q = 0 then byZero s!"Fraction({q.den.pow n.natAbs}, 0)"
  else .ok (.fraction (ratPower q n.natAbs)⁻¹)

def floor (q : Rat) : Int := q.num.fdiv q.den

/-- Floor division and remainder of floating point numbers; the remainder has the sign of the
divisor. -/
def floatDivMod (x y : Binary64) : Binary64 × Binary64 :=
  match x.toRat?, y.toRat? with
  | some p, some q =>
    let truncated : Rat := Value.truncated (p / q)
    let remainder := p - q * truncated
    let mod := Binary64.ofFraction x.isNegative remainder.num.natAbs remainder.den
    let quotient := (x.sub mod).div y
    -- So far the remainder has the sign of the dividend.
    let (mod, quotient) :=
      if mod.isZero then (Binary64.zero y.isNegative, quotient)
      else if y.isNegative != mod.isNegative then (mod.add y, quotient.sub (.ofRat 1))
      else (mod, quotient)
    let div :=
      match quotient.toRat? with
      | some r =>
        if r = 0 then Binary64.zero (x.isNegative != y.isNegative)
        else
          -- Rounding may have moved the quotient off the whole number that it is.
          let low := floor r
          let nearest := if (1 : Rat) / 2 < r - low then low + 1 else low
          Binary64.ofFraction (decide (nearest < 0)) nearest.natAbs 1
      | none => quotient
    (div, mod)
  | some p, none =>
    match y with
    | .infinite negative =>
      if p = 0 then (.zero (x.isNegative != negative), .zero negative)
      else if x.isNegative == negative then (.zero false, x)
      else (.ofRat (-1), y)
    | y => (y, y)
  | none, _ => (.nan false, .nan false)

def onFloats (op : Operator) (x y : Binary64) (mismatch : Fault) : Except Fault Value :=
  match op with
  | .add => .ok (.float (x.add y))
  | .sub => .ok (.float (x.sub y))
  | .mul => .ok (.float (x.mul y))
  | .div => if y.isZero then byZero "float division by zero" else .ok (.float (x.div y))
  | .floorDiv =>
    if y.isZero then byZero "float floor division by zero"
    else .ok (.float (floatDivMod x y).1)
  | .mod => if y.isZero then byZero "float modulo" else .ok (.float (floatDivMod x y).2)
  | .pow => powFloats x y
  | _ => .error mismatch

def onInts (op : Operator) (m n : Int) (mismatch : Fault) : Except Fault Value :=
  match op with
  | .add => .ok (.int (m + n))
  | .sub => .ok (.int (m - n))
  | .mul => .ok (.int (m * n))
  | .div =>
    if n = 0 then byZero "division by zero"
    else
      match Binary64.ofFraction (decide (m < 0) != decide (n < 0)) m.natAbs n.natAbs with
      | .infinite _ =>
        .error (.failed .overflow "integer division result too large for a float")
      | x => .ok (.float (if m = 0 then .zero false else x))
  | .floorDiv =>
    if n = 0 then byZero "integer division or modulo by zero" else .ok (.int (m.fdiv n))
  | .mod => if n = 0 then byZero "integer modulo by zero" else .ok (.int (m.fmod n))
  | .pow => powInts m n
  | .shiftLeft =>
    if n < 0 then .error (.failed .valueError "negative shift count")
    else if m = 0 then .ok (.int 0)
    else if twoTo 60 ≤ n then .error (.failed .overflow "too many digits in integer")
    else .ok (.int (m * twoTo n.toNat))
  | .shiftRight =>
    if n < 0 then .error (.failed .valueError "negative shift count")
    else if m.natAbs < twoTo (min n.toNat 100000) then .ok (.int (if m < 0 then -1 else 0))
    else .ok (.int (m.fdiv (twoTo n.toNat)))
  | .bitAnd => .ok (.int (bitwise Nat.land true m n))
  | .bitOr => .ok (.int (bitwise Nat.lor false m n))
  | .bitXor => .ok (.int (bitwise Nat.xor false m n))
  | .matMul => .error mismatch
where
  /-- A bitwise operation in two's complement, wide enough for both operands. -/
  bitwise (f : Nat → Nat → Nat) (both : Bool) (m n : Int) : Int :=
    let width := max m.natAbs.log2 n.natAbs.log2 + 2
    let full : Int := twoTo width
    let bits := f (m.fmod full).toNat (n.fmod full).toNat
    let signs := if both then m < 0 && n < 0 else bits ≥ twoTo (width - 1)
    if signs then (bits : Int) - full else bits

def onFractions (op : Operator) (p q : Rat) (mismatch : Fault) : Except Fault Value :=
  match op with
  | .add => .ok (.fraction (p + q))
  | .sub => .ok (.fraction (p - q))
  | .mul => .ok (.fraction (p * q))
  | .div => if q = 0 then byZero s!"Fraction({p.num.sign}, 0)" else .ok (.fraction (p / q))
  | .floorDiv =>
    if q = 0 then byZero "integer division or modulo by zero" else .ok (.int (floor (p / q)))
  | .mod =>
    if q = 0 then byZero "integer modulo by zero"
    else .ok (.fraction (p - q * floor (p / q)))
  | .pow =>
    if q.den = 1 then powFraction p q.num
    else do
      powFloats (← Value.toFloating? (.fraction p)) (← Value.toFloating? (.fraction q))
  | _ => .error mismatch

/-- The quotient of complex numbers, scaled by the greater part of the divisor. -/
def divComplex (a b c d : Binary64) : Binary64 × Binary64 :=
  let larger := match c.abs.compare? d.abs with
    | some .lt => false
    | _ => true
  if larger then
    let ratio := d.div c
    let denominator := c.add (d.mul ratio)
    ((a.add (b.mul ratio)).div denominator, (b.sub (a.mul ratio)).div denominator)
  else
    let ratio := c.div d
    let denominator := (c.mul ratio).add d
    (((a.mul ratio).add b).div denominator, ((b.mul ratio).sub a).div denominator)

def onComplexes (op : Operator) (a b c d : Binary64) (mismatch : Fault) : Except Fault Value :=
  match op with
  | .add => .ok (.complex (a.add c) (b.add d))
  | .sub => .ok (.complex (a.sub c) (b.sub d))
  | .mul => .ok (.complex ((a.mul c).sub (b.mul d)) ((a.mul d).add (b.mul c)))
  | .div =>
    if c.isZero && d.isZero then byZero "complex division by zero"
    else let (re, im) := divComplex a b c d; .ok (.complex re im)
  | _ => .error mismatch

def onDecimals (op : Operator) (x y : Decimal) (mismatch : Fault) : Except Fault Value :=
  let invalid : Except Fault Value :=
    .error (.failed .invalidDecimal "[<class 'decimal.InvalidOperation'>]")
  let finish (result : Option Decimal) : Except Fault Value :=
    match result with
    | some d => .ok (.decimal d)
    | none => invalid
  match op with
  | .add => finish (x.add? y)
  | .sub => finish (x.add? (match y with | .nan s q d => .nan s q d | y => flip y))
  | .mul => finish (x.mul? y)
  | _ => .error mismatch
where
  /-- Changes the sign without rounding. -/
  flip : Decimal → Decimal
    | .finite negative coefficient exponent => .finite (!negative) coefficient exponent
    | .infinite negative => .infinite (!negative)
    | d => d

def toFloat? : Number → Except Fault Binary64
  | .int n => Value.floatOfInt? n
  | .fraction q => Value.toFloating? (.fraction q)
  | .float x => .ok x
  | .complex re _ => .ok re
  | .decimal d => Value.toFloating? (.decimal d)

def toComplex? : Number → Except Fault (Binary64 × Binary64)
  | .complex re im => .ok (re, im)
  | x => x.toFloat?.map fun re => (re, Binary64.zero false)

def apply (op : Operator) (x y : Number) (mismatch : Fault) : Except Fault Value :=
  match x, y with
  | .decimal d, .decimal e => onDecimals op d e mismatch
  | .decimal d, .int n => onDecimals op d (.finite (decide (n < 0)) n.natAbs 0) mismatch
  | .int n, .decimal d => onDecimals op (.finite (decide (n < 0)) n.natAbs 0) d mismatch
  | .decimal _, _ | _, .decimal _ => .error mismatch
  | .complex _ _, _ | _, .complex _ _ => do
    let (a, b) ← x.toComplex?
    let (c, d) ← y.toComplex?
    onComplexes op a b c d mismatch
  | .float _, _ | _, .float _ => do onFloats op (← x.toFloat?) (← y.toFloat?) mismatch
  | .int m, .int n => onInts op m n mismatch
  | .fraction p, .fraction q => onFractions op p q mismatch
  | .fraction p, .int n => onFractions op p n mismatch
  | .int m, .fraction q =>
    if op == .pow && q.den == 1 && 0 ≤ q.num then .ok (.int (m.pow q.num.toNat))
    else onFractions op m q mismatch

end Number

namespace Value

/-- A sequence repeated; a count that is not positive gives the empty sequence. -/
def repeatItems {α : Type} (items : List α) (count : Int) : Except Fault (List α) :=
  if !fitsWord count then .error .notAnIndexSize
  else if items.isEmpty then .ok []
  else if Markup.memoryLimit ≤ items.length * count.toNat then .error .outOfMemory
  else .ok (List.replicate count.toNat items).flatten

def repeated? (sequence count : Value) : Option (Except Fault Value) :=
  let times (build : Int → Except Fault Value) : Option (Except Fault Value) :=
    match count.int? with
    | some n => some (build n)
    | none => some (.error (.failed .typeError
        s!"can't multiply sequence by non-int of type '{count.kind.operandName}'"))
  match sequence.core with
  | .list items => times fun n => (repeatItems items n).map .list
  | .tuple items => times fun n => (repeatItems items n).map .tuple
  | .bytes data => times fun n => (repeatItems data n).map .bytes
  | v =>
    match v.text? with
    | some text =>
      times fun n => (Markup.repeated text.toList n).map fun s => .str (String.ofList s)
    | none => none

/-- Two sequences joined. Finished source stays finished only when joined with finished source. -/
def joined? (v w : Value) : Option (Except Fault Value) :=
  let only (kind : String) : Option (Except Fault Value) :=
    some (.error (.failed .typeError
      s!"can only concatenate {kind} (not \"{w.kind.operandName}\") to {kind}"))
  match v.core with
  | .list items => match w.core with
    | .list more => some (.ok (.list (items ++ more)))
    | _ => only "list"
  | .tuple items => match w.core with
    | .tuple more => some (.ok (.tuple (items ++ more)))
    | _ => only "tuple"
  | .bytes data => match w.core with
    | .bytes more => some (.ok (.bytes (data ++ more)))
    | _ => some (.error (.failed .typeError s!"can't concat {w.kind.operandName} to bytes"))
  | v' =>
    match v'.text?, w.text? with
    | some s, some t =>
      match v', w.core with
      | .markup _, .markup _ => some (.ok (.markup (s ++ t)))
      | _, _ => some (.ok (.str (s ++ t)))
    | some _, none => only "str"
    | none, _ => none

def onSets (op : Operator) (xs ys : List Value) : Option (List Value) :=
  let holds (items : List Value) (v : Value) : Bool := items.any fun w => w.same v
  match op with
  | .sub => some (xs.filter fun v => !holds ys v)
  | .bitAnd => some (xs.filter (holds ys))
  | .bitOr => some (ys.foldl addMember xs)
  | .bitXor => some (xs.filter (fun v => !holds ys v) ++ ys.filter fun v => !holds xs v)
  | _ => none

def operate (op : Operator) (v w : Value) : Except Fault Value :=
  let mismatch : Fault := .operands op.sign v.kind w.kind
  let others : Except Fault Value :=
    match Number.ofValue? v, Number.ofValue? w with
    | some x, some y => Number.apply op x y mismatch
    | _, _ =>
      match op with
      | .add => (joined? v w).getD (.error mismatch)
      | .mul =>
        match repeated? v w, repeated? w v with
        | some r, none => r
        -- Of two sequences, the left one tells of the misfit.
        | _, some r => match v.int?, repeated? v w with
          | none, some r' => r'
          | _, _ => r
        | none, none => .error mismatch
      | .mod =>
        match v.text? with
        | some template =>
          (filled? template.toList (.ofValue w)).map fun text => .str (String.ofList text)
        | none => .error mismatch
      | _ => .error mismatch
  match v.core, w.core with
  | .flags f, .flags g =>
    match op with
    | .bitOr => .ok (.flags (f.union g))
    | .bitAnd => .ok (.flags (.ofNumber (f.number &&& g.number)))
    | .bitXor => .ok (.flags (.ofNumber (f.number ^^^ g.number)))
    | _ => others
  | .bool a, .bool b =>
    match op with
    | .bitAnd => .ok (.bool (a && b))
    | .bitOr => .ok (.bool (a || b))
    | .bitXor => .ok (.bool (a != b))
    | _ => others
  | .set xs, .set ys =>
    match onSets op xs ys with
    | some members => .ok (.set members)
    | none => others
  | .dict xs, .dict ys =>
    match op with
    | .bitOr => .ok (.dict (ys.foldl (fun d entry => putKey d entry.1 entry.2) xs))
    | _ => others
  | _, _ => others

/-- An operator that a value does not have. -/
def noUnary (sign : String) (v : Value) : Except Fault Value :=
  .error (.failed .typeError s!"bad operand type for unary {sign}: '{v.kind.operandName}'")

def negative (v : Value) : Except Fault Value :=
  match Number.ofValue? v with
  | some (.int n) => .ok (.int (-n))
  | some (.fraction q) => .ok (.fraction (-q))
  | some (.float x) => .ok (.float x.neg)
  | some (.complex re im) => .ok (.complex re.neg im.neg)
  | some (.decimal d) => .ok (.decimal d.neg)
  | none => noUnary "-" v

/-- The number itself; truth values become integers. -/
def positive (v : Value) : Except Fault Value :=
  match Number.ofValue? v with
  | some (.int n) => .ok (.int n)
  | some (.decimal (.finite negative coefficient exponent)) =>
    .ok (.decimal (Decimal.rounded (negative && coefficient != 0) coefficient exponent))
  | some _ => .ok v.core
  | none => noUnary "+" v

def complement (v : Value) : Except Fault Value :=
  match v.int? with
  | some n => .ok (.int (-n - 1))
  | none => noUnary "~" v

def absolute (v : Value) : Except Fault Value :=
  match Number.ofValue? v with
  | some (.int n) => .ok (.int n.natAbs)
  | some (.fraction q) => .ok (.fraction (if q < 0 then -q else q))
  | some (.float x) => .ok (.float x.abs)
  | some (.decimal d) => .ok (.decimal d.abs)
  | some (.complex re im) =>
    match re.toRat?, im.toRat? with
    | some p, some q => Number.powFloats (.ofRat (p * p + q * q)) (.ofRat (1 / 2))
    | _, _ => .ok (.float (if re.abs == .infinite false || im.abs == .infinite false
        then .infinite false else .nan false))
  | none =>
    .error (.failed .typeError s!"bad operand type for abs(): '{v.kind.operandName}'")

end Value

end TypstMarkup
