import TypstMarkup.Expression.Calling
import TypstMarkup.Expression.Syntax
import TypstMarkup.Value.Indexing

/-!
The value of an expression among named values. An assignment inside an expression stays visible to
what is evaluated later in the same scope; the loops of a comprehension have names of their own.
-/
namespace TypstMarkup.Expression

/-- The names that are visible: those of the loops around, the innermost first, and those of the
surroundings. Calls format values by the rules of a registry. -/
structure Surroundings where
  names : List (String × Value)
  loops : List (List (String × Value)) := []
  registry : Markup.Registry := .builtin

abbrev Evaluating := StateT Surroundings (Except Fault)

/-- The kinds and functions that every expression knows. -/
def knownBuiltins : List (String × Builtin) :=
  [("bool", .bool), ("int", .int), ("float", .float), ("complex", .complex), ("str", .str),
    ("list", .list), ("tuple", .tuple), ("dict", .dict), ("set", .set), ("range", .range),
    ("bytes", .bytes), ("len", .length), ("abs", .absolute), ("repr", .representation),
    ("sorted", .sorted), ("sum", .sum), ("min", .minimum), ("max", .maximum), ("any", .any),
    ("all", .all)]

/-- Further functions that every expression knows by name only. -/
def knownFunctions : List String :=
  ["aiter", "anext", "ascii", "bin", "breakpoint", "callable", "chr", "compile", "delattr", "dir",
    "divmod", "eval", "exec", "format", "getattr", "globals", "hasattr", "hash", "hex", "id",
    "input", "isinstance", "issubclass", "iter", "locals", "next", "oct", "open", "ord", "pow",
    "print", "round", "setattr", "vars"]

/-- Further kinds that every expression knows by name only. -/
def knownKinds : List String :=
  ["bytearray", "classmethod", "enumerate", "filter", "frozenset", "map", "memoryview", "object",
    "property", "reversed", "slice", "staticmethod", "super", "type", "zip", "BaseException",
    "Exception", "ArithmeticError", "AttributeError", "ImportError", "IndexError", "KeyError",
    "LookupError", "NameError", "OSError", "OverflowError", "RuntimeError", "SyntaxError",
    "TypeError", "ValueError", "ZeroDivisionError"]

def known? (id : String) : Option Value :=
  match knownBuiltins.find? fun entry => entry.1 == id with
  | some (_, b) => some (.builtin b)
  | none =>
    if id == "Ellipsis" then some (.foreign (.declared "builtins" "ellipsis") "Ellipsis")
    else if id == reservedConstant then some (.bool true)
    else if knownFunctions.contains id then
      some (.foreign (.declared "builtins" "builtin_function_or_method")
        s!"<built-in function {id}>")
    else if knownKinds.contains id then
      some (.foreign (.declared "builtins" "type") s!"<class '{id}'>")
    else none
where
  /-- The constant that says whether checks are on. -/
  reservedConstant : String := "__debug__"

def setName (names : List (String × Value)) (id : String) (v : Value) : List (String × Value) :=
  match names with
  | [] => [(id, v)]
  | (k, w) :: rest => if k = id then (k, v) :: rest else (k, w) :: setName rest id v

namespace Evaluating

def lookUp (id : String) : Evaluating Value := do
  let s ← get
  match (s.loops ++ [s.names]).findSome? fun names => (names.find? fun e => e.1 == id) with
  | some (_, v) => return v
  | none =>
    match known? id with
    | some v => return v
    | none => throw (.unboundName id)

def assignName (id : String) (v : Value) : Evaluating Unit :=
  modify fun s => { s with names := setName s.names id v }

def assignLoop (id : String) (v : Value) : Evaluating Unit :=
  modify fun s =>
    match s.loops with
    | names :: rest => { s with loops := setName names id v :: rest }
    | [] => { s with names := setName s.names id v }

def inLoop {α : Type} (inside : Evaluating α) : Evaluating α := do
  modify fun s => { s with loops := [] :: s.loops }
  let a ← inside
  modify fun s => { s with loops := s.loops.drop 1 }
  return a

end Evaluating

open Evaluating

/-- The parts of a value taken apart into `count` targets, of which one may take the rest. -/
def unpacked (v : Value) (before after : Nat) (starred : Bool) : Except Fault (List Value) := do
  let items ← match v.items? with
    | .ok items => pure items
    | .error _ => misfit s!"cannot unpack non-iterable {v.kind.operandName} object"
  let fewest := before + after
  if starred then
    if items.length < fewest then
      throw (.failed .valueError
        s!"not enough values to unpack (expected at least {fewest}, got {items.length})")
    let rest := items.drop before
    return items.take before ++ [.list (rest.take (rest.length - after))] ++
      rest.drop (rest.length - after)
  else if items.length < fewest then
    throw (.failed .valueError
      s!"not enough values to unpack (expected {fewest}, got {items.length})")
  else if fewest < items.length then
    throw (.failed .valueError s!"too many values to unpack (expected {fewest})")
  else return items

/-- Whether two values are one and the same, as far as values tell. -/
def identical (v w : Value) : Bool :=
  v.kind == w.kind && v.same w && v.shown == w.shown

def spread (v : Value) : Except Fault (List Value) :=
  match v.items? with
  | .ok items => .ok items
  | .error _ => misfit s!"Value after * must be an iterable, not {v.kind.operandName}"

def sliceBound : Option Value → Except Fault (Option Int)
  | none | some .null => .ok none
  | some v =>
    match v.int? with
    | some n => .ok (some n)
    | none => misfit "slice indices must be integers or None or have an __index__ method"

/-- The item of a value, or the member of a kind, under an index. -/
def itemOf (v index : Value) : Except Fault Value :=
  match v.core with
  | .builtin .mode =>
    match (index.text?).bind fun text => Mode.all.find? fun m => m.memberName == text with
    | some m => .ok (.mode m)
    | none => do throw (.absentKey (← index.shown?))
  | .builtin b =>
    match b.built? with
    | some kind => misfit s!"type '{kind.name}' is not subscriptable"
    | none => misfit s!"'{v.kind.operandName}' object is not subscriptable"
  | _ => v.item? index

def fieldText (v : Value) (conversion : Conversion) (format : String) : Except Fault String := do
  let converted : Value ← match conversion with
    | .none => pure v
    | .plain => pure (.str (← v.plainText?))
    | .shown => pure (.str (← v.shown?))
    | .ascii => pure (.str (Text.asciiOnly (← v.shown?)))
  converted.laidOut? format.toList

def keywordEntries (callee v : Value) : Except Fault (List (String × Value)) :=
  match v.core with
  | .dict entries => entries.mapM fun (key, value) =>
    match key.text? with
    | some key => .ok (key, value)
    | none => misfit "keywords must be strings"
  | _ => misfit
      s!"{calleeTitle callee} argument after ** must be a mapping, not {v.kind.operandName}"

/-- Adds keyword arguments, none of which may be there already. -/
def addKeywords (callee : Value) (keywords more : List (String × Value)) :
    Except Fault (List (String × Value)) :=
  match more.find? fun e => keywords.any fun k => k.1 == e.1 with
  | some (key, _) =>
    misfit s!"{calleeTitle callee} got multiple values for keyword argument '{key}'"
  | none => .ok (keywords ++ more)

def collected (kind : ComprehensionKind) (elements : List (Value × Value)) : Except Fault Value :=
  match kind with
  | .list => .ok (.list (elements.map Prod.fst))
  | .set => Value.ofMembers? (elements.map Prod.fst)
  | .dict => Value.ofEntries? elements
  | .generator =>
    .ok (.object (.declared "builtins" "generator") (some (.list (elements.map Prod.fst))) none)

mutual

def evaluate : Expr → Evaluating Value
  | .name id _ => lookUp id
  | .constant v => return v
  | .formatted pieces => return .str ("".intercalate ((← evaluateAll pieces).map Value.plainText))
  | .field e conversion spec => do
    let v ← evaluate e
    let spec ← evaluateAll spec
    return .str (← fieldText v conversion ("".intercalate (spec.map Value.plainText)))
  | .tuple items _ => return .tuple (← evaluateItems items)
  | .list items _ => return .list (← evaluateItems items)
  | .set items => do Value.ofMembers? (← evaluateMembers items)
  | .dict entries => do Value.ofEntries? (← evaluateEntries entries)
  | .starred e _ => evaluate e
  | .unary op e => do
    let v ← evaluate e
    match op with
    | .negative => v.negative
    | .positive => v.positive
    | .complement => v.complement
    | .negation => return .bool (!v.isTrue)
  | .binary op left right => do
    let v ← evaluate left
    let w ← evaluate right
    Value.operate op v w
  | .boolean conjunction items => evaluateBoolean conjunction items
  | .compare first rest => do evaluateCompared (← evaluate first) rest
  | .conditional test yes no => do
    if (← evaluate test).isTrue then evaluate yes else evaluate no
  | .function list _ _ => do
    evaluateDefaults list
    return .foreign (.declared "builtins" "function") "<function <lambda>>"
  | .comprehension kind element value clauses _ =>
    match clauses with
    | [] => return .null
    | .mk target source conditions _ :: rest => do
      let v ← evaluate source
      let items ← v.items?
      let body : Evaluating (List (Value × Value)) := do
        let first ← evaluate element
        let second ← evaluateOptional value
        return [(first, second.getD .null)]
      let elements : Evaluating (List (Value × Value)) := inLoop do
        return (← items.mapM fun item => do
          assignTarget target item
          if ← allHold conditions then evaluateClauses body rest else return []).flatten
      -- A generator is not run before it is used, so what fails in it does not fail here.
      if kind == .generator then
        try collected kind (← elements)
        catch _ => return .foreign (.declared "builtins" "generator") "<generator>"
      else collected kind (← elements)
  | .call callee arguments keywords _ => do
    let f ← evaluate callee
    let positional ← match arguments with
      -- The call itself spreads a single starred argument, and words the misfit its own way.
      | [.starred e _] =>
        let v ← evaluate e
        match v.items? with
        | .ok items => pure items
        | .error _ =>
          let kind := v.kind.operandName
          misfit s!"{calleeTitle f} argument after * must be an iterable, not {kind}"
      | arguments => evaluateItems arguments
    let keywords ← evaluateKeywords f [] keywords
    applyTo (← get).registry f ⟨positional, keywords⟩
  | .attribute e member _ => do (← evaluate e).member? member
  | .subscript e index => do
    let v ← evaluate e
    match index with
    | .slice start stop step =>
      -- All three bounds are evaluated before the first is checked.
      let start ← evaluateOptional start
      let stop ← evaluateOptional stop
      let step ← evaluateOptional step
      let start ← sliceBound start
      let stop ← sliceBound stop
      v.slice? ⟨start, stop, ← sliceBound step⟩
    | index => itemOf v (← evaluate index)
  | .slice _ _ _ => return .foreign (.declared "builtins" "slice") "slice"
  | .assign id _ e => do
    let v ← evaluate e
    assignName id v
    return v
  | .await e _ => evaluate e
  | .yield e _ => do return (← evaluateOptional e).getD .null

def evaluateAll : List Expr → Evaluating (List Value)
  | [] => return []
  | e :: rest => do
    let v ← evaluate e
    return v :: (← evaluateAll rest)

def evaluateOptional : Option Expr → Evaluating (Option Value)
  | none => return none
  | some e => do return some (← evaluate e)

/-- The values of the items of a list or a tuple, starred ones spread. -/
def evaluateItems : List Expr → Evaluating (List Value)
  | [] => return []
  | .starred e _ :: rest => do
    let items ← spread (← evaluate e)
    return items ++ (← evaluateItems rest)
  | e :: rest => do
    let v ← evaluate e
    return v :: (← evaluateItems rest)

def evaluateMembers : List Expr → Evaluating (List Value)
  | [] => return []
  | .starred e _ :: rest => do
    let items ← (← evaluate e).items?
    return items ++ (← evaluateMembers rest)
  | e :: rest => do
    let v ← evaluate e
    return v :: (← evaluateMembers rest)

def evaluateEntries : List Entry → Evaluating (List (Value × Value))
  | [] => return []
  | .mk (some key) e :: rest => do
    let k ← evaluate key
    let v ← evaluate e
    return (k, v) :: (← evaluateEntries rest)
  | .mk none e :: rest => do
    let v ← evaluate e
    match v.core with
    | .dict entries => return entries ++ (← evaluateEntries rest)
    | _ => misfit s!"'{v.kind.operandName}' object is not a mapping"

/-- The value of a chain of `and` or of `or`: the first that decides it, else the last. -/
def evaluateBoolean (conjunction : Bool) : List Expr → Evaluating Value
  | [] => return .bool conjunction
  | [e] => evaluate e
  | e :: rest => do
    let v ← evaluate e
    if v.isTrue == conjunction then evaluateBoolean conjunction rest else return v

/-- The value of a chain of comparisons; it ends at the first that fails. -/
def evaluateCompared (left : Value) : List (CompareOperator × Expr) → Evaluating Value
  | [] => return .bool true
  | (op, e) :: rest => do
    let right ← evaluate e
    let holds ← match op with
      | .equal => pure (left.same right)
      | .notEqual => pure (!left.same right)
      | .order c => Value.compare? c left right
      | .identical => pure (identical left right)
      | .notIdentical => pure (!identical left right)
      | .member => right.contains? left
      | .notMember =>
        let found ← right.contains? left
        pure (!found)
    if holds then evaluateCompared right rest else return .bool false

def evaluateDefaults : List Parameter → Evaluating Unit
  | [] => return
  | .mk _ _ _ default :: rest => do
    let _ ← evaluateOptional default
    evaluateDefaults rest

def allHold : List Expr → Evaluating Bool
  | [] => return true
  | e :: rest => do
    if (← evaluate e).isTrue then allHold rest else return false

/-- What a body yields in the loops of a comprehension after the first. -/
def evaluateClauses (body : Evaluating (List (Value × Value))) :
    List Clause → Evaluating (List (Value × Value))
  | [] => body
  | .mk target source conditions _ :: rest => do
    let items ← (← evaluate source).items?
    return (← items.mapM fun item => do
      assignTarget target item
      if ← allHold conditions then evaluateClauses body rest else return []).flatten

def evaluateKeywords (callee : Value) (done : List (String × Value)) :
    List Keyword → Evaluating (List (String × Value))
  | [] => return done
  | .mk (some id) e _ :: rest => do
    let v ← evaluate e
    let done ← addKeywords callee done [(id, v)]
    evaluateKeywords callee done rest
  | .mk none e _ :: rest => do
    let v ← evaluate e
    let done ← addKeywords callee done (← keywordEntries callee v)
    evaluateKeywords callee done rest

def assignTarget : Expr → Value → Evaluating Unit
  | .name id _, v => assignLoop id v
  | .tuple items _, v | .list items _, v => do
    let before := (items.takeWhile fun e => !e.isStarred).length
    let starred := items.any Expr.isStarred
    let after := items.length - before - (if starred then 1 else 0)
    assignTargets items (← unpacked v before after starred)
  | .starred e _, v => assignTarget e v
  | e, _ => do
    let owner ← match e with
      | .attribute e _ _ => evaluate e
      | .subscript e _ => evaluate e
      | _ => pure .null
    misfit s!"'{owner.kind.operandName}' object does not support item assignment"

def assignTargets : List Expr → List Value → Evaluating Unit
  | e :: rest, v :: values => do
    assignTarget e v
    assignTargets rest values
  | _, _ => return

end

end TypstMarkup.Expression
