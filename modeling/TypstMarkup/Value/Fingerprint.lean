import TypstMarkup.Value.Build

/-!
Fingerprints. Equal values have equal fingerprints, so they may serve as keys; values that differ
may share one. Numbers are fingerprinted modulo a prime, whatever their kind; a matrix shares the
fingerprint of the tuple of its rows, and a mode that of its name.
-/
namespace TypstMarkup

inductive Fingerprint where
  | null
  | number (n : Int)
  | complex (re im : Int)
  | text (points : List Nat)
  | tuple (items : List Fingerprint)
  | pattern (p : Pattern)
  | named (name : String)

/-- The prime modulus of the fingerprints of numbers. -/
def fingerprintPrime : Nat := twoTo 61 - 1

def powMod (fuel base exponent : Nat) : Nat :=
  match fuel with
  | 0 => 1
  | fuel + 1 =>
    if exponent = 0 then 1
    else
      let half := powMod fuel (base * base % fingerprintPrime) (exponent / 2)
      if exponent % 2 = 1 then base * half % fingerprintPrime else half

/-- The residue of a rational with its sign. A denominator divisible by the prime counts as an
infinity, and the residue minus one is avoided. -/
def residue (q : Rat) : Int :=
  let inverse := powMod 62 (q.den % fingerprintPrime) (fingerprintPrime - 2)
  let magnitude : Nat :=
    if q.den % fingerprintPrime = 0 then 314159
    else q.num.natAbs % fingerprintPrime * inverse % fingerprintPrime
  let signed : Int := if q.num < 0 then -magnitude else magnitude
  if signed = -1 then -2 else signed

def Extended.residue : Extended → Int
  | .rational q => TypstMarkup.residue q
  | .infinite negative => if negative then -314159 else 314159

namespace Fingerprint

mutual

def same : Fingerprint → Fingerprint → Bool
  | .null, .null => true
  | .number m, .number n => m == n
  | .complex a b, .complex c d => a == c && b == d
  | .text s, .text t => s == t
  | .tuple s, .tuple t => sameAll s t
  | .pattern p, .pattern q => p == q
  | .named s, .named t => s == t
  | _, _ => false

def sameAll : List Fingerprint → List Fingerprint → Bool
  | [], [] => true
  | x :: xs, y :: ys => same x y && sameAll xs ys
  | _, _ => false

end

def ofText (s : String) : Fingerprint :=
  .text (s.toList.map Char.toNat)

end Fingerprint

namespace Value

/-- The fingerprint of a value that holds no other values. -/
def scalarFingerprint (v : Value) : Fingerprint :=
  match v.numeric? with
  | some (some (re, im)) =>
    if im == .rational 0 then .number re.residue else .complex re.residue im.residue
  | some none => .named "nan"
  | none =>
    match v.text? with
    | some text => .ofText text
    | none =>
      match v with
      | .null => .null
      | .verbatim text => .tuple [.ofText text]
      | .raw text language => .tuple [.ofText text, .ofText language]
      | .pattern p => .pattern p
      | .bytes data => .text (data.map UInt8.toNat)
      | .mode m => .ofText m.memberName
      | .range r =>
        if r.length = 0 then .tuple [.number 0, .null, .null]
        else if r.length = 1 then .tuple [.number 1, .number (residue r.start), .null]
        else .tuple [.number r.length, .number (residue r.start), .number (residue r.step)]
      | v => .named v.shown

mutual

def fingerprint : Value → Fingerprint
  | .tuple items => .tuple (fingerprintAll items)
  | .matrix rows => .tuple (fingerprintRows rows)
  | .object _ (some v) _ => fingerprint v
  | v => scalarFingerprint v

def fingerprintAll : List Value → List Fingerprint
  | [] => []
  | v :: rest => fingerprint v :: fingerprintAll rest

def fingerprintRows : List (List Value) → List Fingerprint
  | [] => []
  | row :: rest => .tuple (fingerprintAll row) :: fingerprintRows rest

end

/-- The fingerprint of a value that may serve as a key. -/
def fingerprint? (v : Value) : Except Fault Fingerprint := do
  v.hashable?
  return v.fingerprint

end Value

end TypstMarkup
