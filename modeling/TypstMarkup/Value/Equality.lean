import TypstMarkup.Value.Basic

/-!
Equality of values. Numbers are compared by value whatever their kind, texts by their characters
whatever their kind, dictionaries and sets without regard to order; otherwise values of different
kinds differ. A NaN equals nothing.
-/
namespace TypstMarkup

/-- A number on the extended real line. -/
inductive Extended where
  | rational (q : Rat)
  | infinite (negative : Bool)
deriving DecidableEq, Repr

def Binary64.extended? : Binary64 → Option Extended
  | .infinite negative => some (.infinite negative)
  | x => x.toRat?.map .rational

def Decimal.extended? : Decimal → Option Extended
  | .infinite negative => some (.infinite negative)
  | d => d.toRat?.map .rational

/-- The numerical content of a value: its real and its imaginary part. The inner value is absent for
a NaN, the outer one for a value that is no number. -/
def Value.numeric? (v : Value) : Option (Option (Extended × Extended)) :=
  let zero := Extended.rational 0
  match v.core with
  | .bool b => some (some (.rational (if b then 1 else 0), zero))
  | .int n => some (some (.rational n, zero))
  | .flags f => some (some (.rational f.number, zero))
  | .fraction q => some (some (.rational q, zero))
  | .float x => some (x.extended?.map (·, zero))
  | .decimal d => some (d.extended?.map (·, zero))
  | .complex re im => some do return (← re.extended?, ← im.extended?)
  | _ => none

namespace Value

/-- Equality of values that hold no other values. -/
def sameScalar (v w : Value) : Bool :=
  match v.numeric?, w.numeric? with
  | some (some x), some (some y) => x == y
  | some _, _ | _, some _ => false
  | _, _ =>
    match v.text?, w.text? with
    | some s, some t => s == t
    | some _, _ | _, some _ => false
    | _, _ =>
      match v, w with
      | .null, .null => true
      | .verbatim s, .verbatim t => s == t
      | .raw s l, .raw t m => s == t && l == m
      | .pattern p, .pattern q => p == q
      | .bytes s, .bytes t => s == t
      | .mode m, .mode n => m == n
      | .builtin b, .builtin d => b == d
      | .foreign k s, .foreign l t => k == l && s == t
      -- Progressions are equal if their elements are, so an unused step does not count.
      | .range r, .range s =>
        r.length == s.length &&
          (r.length == 0 || r.start == s.start && (r.length == 1 || r.step == s.step))
      | _, _ => false

mutual

def same (v w : Value) : Bool :=
  match v, w.core with
  | .list xs, .list ys | .tuple xs, .tuple ys => sameAll xs ys
  | .set xs, .set ys => xs.length == ys.length && eachIn xs ys
  | .dict xs, .dict ys => xs.length == ys.length && eachEntryIn xs ys
  | .matrix xs, .matrix ys => sameRows xs ys
  | .object _ (some x) _, y => same x y
  | x, y => sameScalar x y

def sameAll (vs ws : List Value) : Bool :=
  match vs, ws with
  | [], [] => true
  | v :: vs, w :: ws => same v w && sameAll vs ws
  | _, _ => false

def sameRows (vs ws : List (List Value)) : Bool :=
  match vs, ws with
  | [], [] => true
  | v :: vs, w :: ws => sameAll v w && sameRows vs ws
  | _, _ => false

def eachIn (vs ws : List Value) : Bool :=
  match vs with
  | [] => true
  | v :: vs => ws.any (fun w => same v w) && eachIn vs ws

def eachEntryIn (vs ws : List (Value × Value)) : Bool :=
  match vs with
  | [] => true
  | (key, v) :: vs => ws.any (fun w => same key w.1 && same v w.2) && eachEntryIn vs ws

end

end Value

end TypstMarkup
