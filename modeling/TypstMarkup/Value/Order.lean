import TypstMarkup.Value.Arithmetic

/-!
Comparison of values. Numbers are ordered by value, texts by code points, sequences by their first
difference, and sets by inclusion; a NaN is neither above nor below anything.
-/
namespace TypstMarkup

inductive Comparison where
  | less | lessOrEqual | greater | greaterOrEqual
deriving DecidableEq, Repr

namespace Comparison

def sign : Comparison → String
  | .less => "<"
  | .lessOrEqual => "<="
  | .greater => ">"
  | .greaterOrEqual => ">="

def holds (c : Comparison) (o : Ordering) : Bool :=
  match c with
  | .less => o == .lt
  | .lessOrEqual => o != .gt
  | .greater => o == .gt
  | .greaterOrEqual => o != .lt

end Comparison

def Extended.compare (x y : Extended) : Ordering :=
  match x, y with
  | .rational p, .rational q => if p < q then .lt else if p = q then .eq else .gt
  | .infinite a, .infinite b => if a == b then .eq else if a then .lt else .gt
  | .infinite a, _ => if a then .lt else .gt
  | _, .infinite b => if b then .gt else .lt

/-- The order of texts by code points. -/
def compareTexts : List Char → List Char → Ordering
  | [], [] => .eq
  | [], _ => .lt
  | _, [] => .gt
  | c :: s, d :: t => if c = d then compareTexts s t else if c < d then .lt else .gt

namespace Value

def isComplex (v : Value) : Bool :=
  match v.core with
  | .complex _ _ => true
  | _ => false

mutual

def compare? (c : Comparison) (v w : Value) : Except Fault Bool :=
  let mismatch : Fault := .failed .typeError
    (s!"'{c.sign}' not supported between instances of '{v.kind.operandName}' and " ++
      s!"'{w.kind.operandName}'")
  match v, w.core with
  | .list xs, .list ys => compareAll? c xs ys
  | .tuple xs, .tuple ys => compareAll? c xs ys
  | .set xs, .set ys => .ok <|
    match c with
    | .less => eachIn xs ys && xs.length != ys.length
    | .lessOrEqual => eachIn xs ys
    | .greater => eachIn ys xs && xs.length != ys.length
    | .greaterOrEqual => eachIn ys xs
  | v, w =>
    match v.numeric?, w.numeric? with
    | some x, some y =>
      if v.isComplex || w.isComplex then .error mismatch
      else match x, y with
        | some x, some y => .ok (c.holds (x.1.compare y.1))
        -- Nothing compares with a NaN.
        | _, _ => .ok false
    | _, _ =>
      match v.text?, w.text? with
      | some s, some t => .ok (c.holds (compareTexts s.toList t.toList))
      | _, _ =>
        match v.core, w with
        | .bytes s, .bytes t =>
          .ok (c.holds (compareTexts (s.map fun b => Char.ofNat b.toNat)
            (t.map fun b => Char.ofNat b.toNat)))
        | _, _ => .error mismatch

/-- Whether two sequences stand in an order relation, by their first difference. -/
def compareAll? (c : Comparison) (vs ws : List Value) : Except Fault Bool :=
  match vs, ws with
  | [], [] => .ok (c.holds .eq)
  | [], _ => .ok (c.holds .lt)
  | _, [] => .ok (c.holds .gt)
  | v :: vs, w :: ws => if same v w then compareAll? c vs ws else compare? c v w

end

end Value

end TypstMarkup
