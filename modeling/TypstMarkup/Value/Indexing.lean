import TypstMarkup.Text.Part
import TypstMarkup.Value.Build

/-!
Items by position or key, slices, membership and position of an item. Negative positions count from
the end.
-/
namespace TypstMarkup.Value

/-- A position from the start, for a position that may count from the end. -/
def position? (length : Nat) (index : Int) : Option Nat :=
  let shifted := if index < 0 then index + length else index
  if 0 ≤ shifted && shifted < length then some shifted.toNat else none

/-- The item of a list at a position that may count from the end. -/
def itemAt? (sequence : String) (items : List Value) (index : Int) : Except Fault Value :=
  if !fitsWord index then
    .error (.failed .indexError "cannot fit 'int' into an index-sized integer")
  else
    match (position? items.length index).bind (items[·]?) with
    | some v => .ok v
    | none => .error (.outOfRange sequence)

def index? (what : String) (index : Value) : Except Fault Int :=
  match index.int? with
  | some n => .ok n
  | none =>
    .error (.failed .typeError
      s!"{what} indices must be integers or slices, not {index.kind.operandName}")

def item? (v index : Value) : Except Fault Value :=
  match v.core with
  | .list items => do itemAt? "list" items (← index? "list" index)
  | .tuple items => do itemAt? "tuple" items (← index? "tuple" index)
  | .matrix rows => do itemAt? "tuple" (rows.map .tuple) (← index? "tuple" index)
  | .bytes data => do
    match ← index? "byte" index with
    | n => match (position? data.length n).bind (data[·]?) with
      | some byte => return .int byte.toNat
      | none => throw (.failed .indexError "index out of range")
  | .range r => do
    match position? r.length (← index? "range" index) with
    | some n => return .int (r.get n)
    | none => throw (.outOfRange "range object")
  | .dict entries => do
    index.hashable?
    match entries.find? fun entry => entry.1.same index with
    | some entry => return entry.2
    | none => throw (.absentKey (← index.shown?))
  | _ =>
    match v.text? with
    | some text =>
      match index.int? with
      | some n => itemAt? "string" (characters text) n
      | none => .error (.failed .typeError
          s!"string indices must be integers, not '{index.kind.operandName}'")
    | none =>
      .error (.failed .typeError s!"'{v.kind.operandName}' object is not subscriptable")

/-- The bounds of a slice: where it starts, where it stops, and its step. -/
structure Slice where
  start : Option Int
  stop : Option Int
  step : Option Int

/-- A bound moved into the range from `low` to `high`, counted from the end if negative. -/
def clampBound (length : Nat) (low high bound : Int) : Int :=
  let shifted := if bound < 0 then bound + length else bound
  max low (min high shifted)

/-- The progression of positions that a slice takes from a sequence of a length. -/
def Slice.positions? (s : Slice) (length : Nat) : Except Fault Progression :=
  let step := s.step.getD 1
  if h : step = 0 then .error (.failed .valueError "slice step cannot be zero")
  else
    let (low, high) : Int × Int := if 0 < step then (0, length) else (-1, length - 1)
    let first := if 0 < step then low else high
    let last := if 0 < step then high else low
    .ok ⟨(s.start.map (clampBound length low high)).getD first,
      (s.stop.map (clampBound length low high)).getD last, step, h⟩

def pick {α : Type} (items : List α) (positions : Progression) : List α :=
  let array := items.toArray
  positions.toList.filterMap fun n => array[n.toNat]?

def slice? (v : Value) (s : Slice) : Except Fault Value :=
  match v.core with
  | .list items => do return .list (pick items (← s.positions? items.length))
  | .tuple items => do return .tuple (pick items (← s.positions? items.length))
  | .matrix rows => do return .tuple (pick (rows.map .tuple) (← s.positions? rows.length))
  | .bytes data => do return .bytes (pick data (← s.positions? data.length))
  | .range r => do
    let p ← s.positions? r.length
    ofBounds? (r.get p.start) (r.get p.stop) (r.step * p.step)
  | .dict _ => .error (.failed .typeError "unhashable type: 'slice'")
  | _ =>
    match v.text? with
    | some text => do
      let cs := text.toList
      return .str (String.ofList (pick cs (← s.positions? cs.length)))
    | none =>
      .error (.failed .typeError s!"'{v.kind.operandName}' object is not subscriptable")

/-- Whether a container holds a value; for texts, whether a text is part of another. -/
def contains? (container v : Value) : Except Fault Bool :=
  match container.text? with
  | some text =>
    match v.text? with
    | some part => .ok (Text.occursIn part.toList text.toList)
    | none => .error (.failed .typeError
        s!"'in <string>' requires string as left operand, not {v.kind.operandName}")
  | none =>
    match container.core with
    | .range r => .ok (r.toList.any fun n => (Value.int n).same v)
    | .dict _ | .set _ => do
      v.hashable?
      return (← container.items?).any fun w => w.same v
    | _ =>
      match container.items? with
      | .ok items => .ok (items.any fun w => w.same v)
      | .error _ => .error (.failed .typeError
          s!"argument of type '{container.kind.operandName}' is not iterable")

def indexOf? (container v : Value) : Except Fault Nat := do
  match (← container.items?).findIdx? fun w => w.same v with
  | some n => return n
  | none =>
    match container.core with
    | .list _ => throw (.failed .valueError s!"{← v.shown?} is not in list")
    | .tuple _ => throw (.failed .valueError "tuple.index(x): x not in tuple")
    | .range _ => throw (.failed .valueError s!"{← v.shown?} is not in range")
    | _ =>
      if container.text?.isSome then throw (.failed .valueError "substring not found")
      else throw .absentItem

def countOf? (container v : Value) : Except Fault Nat := do
  return (← container.items?).countP fun w => w.same v

def reversed? (v : Value) : Except Fault (List Value) := do
  match v.core with
  | .set _ => throw (.failed .typeError "'set' object is not reversible")
  | _ =>
    match v.items? with
    | .ok items => return items.reverse
    | .error _ => throw (.failed .typeError s!"'{v.kind.operandName}' object is not reversible")

end TypstMarkup.Value
