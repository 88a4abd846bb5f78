import TypstMarkup.Expression.Member
import TypstMarkup.Markup.Write
import TypstMarkup.Number.Ratio
import TypstMarkup.Value.Order

/-!
Calls of the kinds and functions that expressions know. Arguments are bound to parameters by
position and by name; a call that does not fit the parameters fails before anything else happens.
-/
namespace TypstMarkup.Expression

structure Arguments where
  positional : List Value := []
  keywords : List (String × Value) := []

/-- The parameters of a function: the name it goes by in messages, how many arguments it is passed
implicitly, its parameters, and how many of them are required. -/
structure Signature where
  title : String
  implicit : Nat
  parameters : List String
  required : Nat

def misfit {α : Type} (text : String) : Except Fault α :=
  .error (.failed .typeError text)

/-- Names in quotes, joined as in a sentence. -/
def enumerated (names : List String) : String :=
  match names.map fun name => s!"'{name}'" with
  | [] => ""
  | [name] => name
  | [first, second] => first ++ " and " ++ second
  | names => ", ".intercalate names.dropLast ++ ", and " ++ names.getLast?.getD ""

def countedArguments (count : Nat) : String :=
  if count = 1 then "1 positional argument" else s!"{count} positional arguments"

namespace Signature

def bind (s : Signature) (a : Arguments) : Except Fault (List (Option Value)) := do
  let placed := a.positional.take s.parameters.length
  for (key, _) in a.keywords do
    match s.parameters.idxOf? key with
    | none => misfit s!"{s.title} got an unexpected keyword argument '{key}'"
    | some n =>
      if n < placed.length then misfit s!"{s.title} got multiple values for argument '{key}'"
  -- A surplus of positional arguments is told of only if all keywords fit.
  if s.parameters.length < a.positional.length then
    let most := s.parameters.length + s.implicit
    let least := s.required + s.implicit
    let given := a.positional.length + s.implicit
    let takes := if least = most then countedArguments most
      else s!"from {least} to {most} positional arguments"
    let verb := if given = 1 then "was" else "were"
    misfit s!"{s.title} takes {takes} but {given} {verb} given"
  let bound := s.parameters.mapIdx fun n key =>
    (placed[n]?).or ((a.keywords.find? fun entry => entry.1 == key).map Prod.snd)
  let missing := ((s.parameters.zip bound).take s.required).filterMap fun (key, v) =>
    if v.isNone then some key else none
  if !missing.isEmpty then
    let noun := if missing.length = 1 then "argument" else "arguments"
    misfit s!"{s.title} missing {missing.length} required positional {noun}: {enumerated missing}"
  return bound

end Signature

def noKeywords (title : String) (a : Arguments) : Except Fault (List Value) :=
  if a.keywords.isEmpty then .ok a.positional
  else misfit s!"{title}() takes no keyword arguments"

def only (title : String) (a : Arguments) : Except Fault Value := do
  match ← noKeywords title a with
  | [v] => return v
  | vs => misfit s!"{title}() takes exactly one argument ({vs.length} given)"

def atMostOne (title : String) (a : Arguments) : Except Fault (Option Value) := do
  match ← noKeywords title a with
  | [] => return none
  | [v] => return some v
  | vs => misfit s!"{title} expected at most 1 argument, got {vs.length}"

def asIndex (v : Value) : Except Fault Int :=
  match v.int? with
  | some n => .ok n
  | none => misfit s!"'{v.kind.operandName}' object cannot be interpreted as an integer"

def rangeOf (a : Arguments) : Except Fault Value := do
  match ← noKeywords "range" a with
  | [] => misfit "range expected at least 1 argument, got 0"
  | [stop] => Value.ofBounds? 0 (← asIndex stop) 1
  | [start, stop] =>
    let first ← asIndex start
    Value.ofBounds? first (← asIndex stop) 1
  | [start, stop, step] =>
    let first ← asIndex start
    let last ← asIndex stop
    Value.ofBounds? first last (← asIndex step)
  | vs => misfit s!"range expected at most 3 arguments, got {vs.length}"

def quotient (p q : Rat) : Except Fault Value :=
  if q = 0 then .error (.failed .zeroDivision s!"Fraction({p.num * q.den}, 0)")
  else .ok (.fraction (p / q))

def exactRatio? (v : Value) : Option Rat :=
  match v.core with
  | .fraction q => some q
  | v => v.int?.map fun n => (n : Rat)

def noRatio (isNan : Bool) : Fault :=
  if isNan then .failed .valueError "cannot convert NaN to integer ratio"
  else .failed .overflow "cannot convert Infinity to integer ratio"

def fractionOf (numerator denominator : Option Value) : Except Fault Value :=
  let first := numerator.getD (.int 0)
  match denominator with
  | none | some .null =>
    match exactRatio? first with
    | some q => .ok (.fraction q)
    | none =>
      match first.core with
      | .float x =>
        match x.toRat? with
        | some q => .ok (.fraction q)
        | none => .error (noRatio (x matches .nan _))
      | .decimal d =>
        match d.toRat? with
        | some q => .ok (.fraction q)
        | none => .error (noRatio (d matches .nan _ _ _))
      | _ =>
        match first.text? with
        | some text =>
          match Ratio.ofText? text.toList with
          | some (n, d) => Value.ofRatio? n d
          | none => .error (.failed .valueError
              s!"Invalid literal for Fraction: {Text.quotedString text}")
        | none => misfit "argument should be a string or a Rational instance"
  | some second =>
    match exactRatio? first, exactRatio? second with
    | some p, some q => quotient p q
    | _, _ => misfit "both arguments should be Rational instances"

/-- The decimal with the same value as a rational whose denominator is a power of two. -/
def exactDecimal (negative : Bool) (q : Rat) : Decimal :=
  let places := q.den.log2
  .finite negative (q.num.natAbs * Nat.pow 5 places) (-(places : Int))

def decimalOf (v : Value) : Except Fault Value :=
  match v.core with
  | .decimal d => .ok (.decimal d)
  | .float x =>
    match x with
    | .infinite negative => .ok (.decimal (.infinite negative))
    | .nan negative => .ok (.decimal (.nan negative false 0))
    | .finite negative _ _ => .ok (.decimal (exactDecimal negative (x.toRat?.getD 0)))
  | .tuple _ | .list _ => .error (.failed .valueError "argument must be a sequence of length 3")
  | c =>
    match c.int?, c.text? with
    | some n, _ => .ok (.decimal (.finite (n < 0) n.natAbs 0))
    | none, some text => Value.ofDecimalText? text
    | none, none => misfit s!"conversion from {v.kind.name} to Decimal is not supported"

def modeOf (a : Arguments) : Except Fault Value := do
  match a.positional ++ a.keywords.map Prod.snd with
  | [] => misfit "EnumType.__call__() missing 1 required positional argument: 'value'"
  | v :: _ =>
    match v.core with
    | .mode m => return .mode m
    | _ =>
      match Mode.all.find? fun m => (Value.int m.number).same v with
      | some m => return .mode m
      | none => throw (.failed .valueError s!"{← v.shown?} is not a valid Mode")

def recordText (v : Value) : Except Fault String :=
  match v.text? with
  | some text => .ok text
  | none => misfit s!"string argument expected, got '{v.kind.operandName}'"

def flagsOf (v : Value) : Except Fault PatternFlags :=
  match v.int? with
  | some n => .ok (.ofNumber n.toNat)
  | none => misfit s!"unsupported operand type(s) for &: '{v.kind.operandName}' and 'RegexFlag'"

def patternOf (source flags : Value) : Except Fault Value := do
  match source.core with
  | .pattern p =>
    if flags.isTrue then
      throw (.failed .valueError "cannot process flags argument with a compiled pattern")
    return .pattern p
  | .bytes data => return .pattern (← Pattern.ofBytes? data (← flagsOf flags))
  | c =>
    match c.text? with
    | some text => return .pattern (← Pattern.ofText? text (← flagsOf flags))
    | none => misfit "first argument must be string or compiled pattern"

/-- The entries of a dictionary made from a dictionary or from pairs. -/
def entriesOf (v : Value) : Except Fault (List (Value × Value)) := do
  match v.core with
  | .dict entries => return entries
  | _ =>
    let items ← v.items?
    (items.zipIdx).mapM fun (item, n) =>
      match item.items? with
      | .ok [key, value] => .ok (key, value)
      | .ok parts => .error (.failed .valueError
          s!"dictionary update sequence element #{n} has length {parts.length}; 2 is required")
      | .error _ => misfit s!"cannot convert dictionary update sequence element #{n} to a sequence"

/-- Inserts a value into sorted ones, after those that are not above it. -/
def insertSorted (v : Value) : List Value → Except Fault (List Value)
  | [] => .ok [v]
  | w :: rest => do
    if ← Value.compare? .less v w then return v :: w :: rest
    else return w :: (← insertSorted v rest)

/-- The values in ascending order; equal ones keep their order. -/
def sortedOf (items : List Value) : Except Fault (List Value) :=
  items.foldlM (fun done v => insertSorted v done) []

def extreme (title : String) (c : Comparison) (a : Arguments) : Except Fault Value := do
  let items ← match ← noKeywords title a with
    | [] => misfit s!"{title} expected at least 1 argument, got 0"
    | [v] => v.items?
    | vs => pure vs
  match items with
  | [] => throw (.failed .valueError s!"{title}() arg is an empty sequence")
  | first :: rest =>
    rest.foldlM (fun best v => do return if ← Value.compare? c v best then v else best) first

def sumOf (a : Arguments) : Except Fault Value := do
  match a.positional ++ a.keywords.map Prod.snd with
  | [items] => (← items.items?).foldlM (Value.operate .add) (.int 0)
  | [items, start] => (← items.items?).foldlM (Value.operate .add) start
  | [] => misfit "sum() takes at least 1 positional argument (0 given)"
  | vs => misfit s!"sum() takes at most 2 arguments ({vs.length} given)"

def byteOf (v : Value) : Except Fault UInt8 := do
  let n ← asIndex v
  if 0 ≤ n && n < 256 then return UInt8.ofNat n.toNat
  else throw (.failed .valueError "bytes must be in range(0, 256)")

def bytesOf (a : Arguments) : Except Fault Value := do
  match a.positional with
  | [] => return .bytes []
  | v :: _ =>
    match v.core, v.int? with
    | .bytes data, _ => return .bytes data
    | _, some n =>
      if n < 0 then throw (.failed .valueError "negative count")
      return .bytes (← Value.repeatItems [(0 : UInt8)] n)
    | _, none =>
      if v.text?.isSome then misfit "string argument without an encoding"
      return .bytes (← (← v.items?).mapM byteOf)

/-- The parameters of the kinds and functions whose arguments may be passed by name. -/
def signature? : Builtin → Option Signature
  | .char => some ⟨"Char.__new__()", 1, ["value"], 1⟩
  | .matrix => some ⟨"Matrix.__init__()", 1, ["rows"], 1⟩
  | .raw => some ⟨"Raw.__init__()", 1, ["text", "lang"], 1⟩
  | .verbatim => some ⟨"TypstText.__init__()", 1, ["text"], 1⟩
  | .fraction => some ⟨"Fraction.__new__()", 1, ["numerator", "denominator"], 0⟩
  | .compilePattern => some ⟨"compile()", 0, ["pattern", "flags"], 1⟩
  | .parseMode => some ⟨"Mode.parse()", 1, ["raw"], 1⟩
  | _ => none

/-- Calls a kind or a function with the value bound to each of its parameters. -/
def applyBound (b : Builtin) (bound : List (Option Value)) : Except Fault Value :=
  let first := (bound.head?.join).getD .null
  let second := bound[1]?.join
  match b with
  | .char => first.ofSingle?
  | .matrix => first.ofRows?
  | .raw => do
    let text ← recordText first
    return .raw text (← recordText (second.getD (.str "")))
  | .verbatim => first.ofPlain?
  | .fraction => fractionOf bound.head?.join second
  | .compilePattern => patternOf first (second.getD (.int 0))
  | _ =>
    match first.core with
    | .null => .ok .null
    | v =>
      match v.text? with
      | some text => .ok (((Mode.ofToken? text.toList).map Value.mode).getD .null)
      | none => .error (.noAttribute s!"'{first.kind.operandName}' object" "strip")

/-- Calls a kind or a function whose arguments are passed by position. Finished source is made with
the rules of a registry. -/
def applyPositional (r : Markup.Registry) (b : Builtin) (a : Arguments) : Except Fault Value := do
  match b with
  | .decimal =>
    if let some (key, _) := a.keywords.find? fun e => e.1 != "value" && e.1 != "context" then
      misfit s!"'{key}' is an invalid keyword argument for this function"
    match a.positional ++ a.keywords.map Prod.snd with
    | [] => return .decimal (.finite false 0 0)
    | [v] | [v, _] => decimalOf v
    | vs => misfit s!"function takes at most 2 arguments ({vs.length} given)"
  | .mode => modeOf a
  | .range => rangeOf a
  | .length => return .int (← (← only "len" a).length?)
  | .absolute => (← only "abs" a).absolute
  | .representation => return .str (← (← only "repr" a).shown?)
  | .any => return .bool ((← (← only "any" a).items?).any Value.isTrue)
  | .all => return .bool ((← (← only "all" a).items?).all Value.isTrue)
  | .sorted =>
    match a.positional with
    | [v] => return .list (← sortedOf (← v.items?))
    | vs => misfit s!"sorted expected 1 argument, got {vs.length}"
  | .sum => sumOf a
  | .minimum => extreme "min" .less a
  | .maximum => extreme "max" .greater a
  | .str =>
    match a.positional ++ a.keywords.map Prod.snd with
    | [] => return .str ""
    | v :: _ => return .str (← v.plainText?)
  | .bool => return .bool (((← atMostOne "bool" a).map Value.isTrue).getD false)
  | .int =>
    match a.positional with
    | [] => return .int 0
    | v :: _ => return .int (← v.toInteger?)
  | .float =>
    match ← atMostOne "float" a with
    | none => return .float (.zero false)
    | some v => return .float (← v.toFloating?)
  | .complex =>
    match a.positional ++ a.keywords.map Prod.snd with
    | [] => return .complex (.zero false) (.zero false)
    | [v] =>
      match v.core with
      | .complex re im => return .complex re im
      | _ => return .complex (← v.toFloating?) (.zero false)
    | v :: w :: _ =>
      let re ← v.toFloating?
      return .complex re (← w.toFloating?)
  | .list =>
    match ← atMostOne "list" a with
    | none => return .list []
    | some v => return .list (← v.items?)
  | .tuple =>
    match ← atMostOne "tuple" a with
    | none => return .tuple []
    | some v => return .tuple (← v.items?)
  | .set =>
    match ← atMostOne "set" a with
    | none => return .set []
    | some v => Value.ofMembers? (← v.items?)
  | .dict =>
    let named := a.keywords.map fun (key, v) => (Value.str key, v)
    match a.positional with
    | [] => Value.ofEntries? named
    | [v] => Value.ofEntries? ((← entriesOf v) ++ named)
    | vs => misfit s!"dict expected at most 1 argument, got {vs.length}"
  | .bytes => bytesOf a
  | .markup =>
    match a.positional with
    | [] => Markup.construct r (.str "") (OrderedMap.ofList a.keywords)
    | [v] => Markup.construct r v (OrderedMap.ofList a.keywords)
    | vs =>
      let given := vs.length + 1
      misfit s!"TypstString.__new__() takes from 1 to 2 positional arguments but {given} were given"
  | _ => misfit s!"'{b.kind.name}' object is not callable"

def applyTo (r : Markup.Registry) (callee : Value) (a : Arguments) : Except Fault Value :=
  match callee.core with
  | .builtin b =>
    match signature? b with
    | some s => do applyBound b (← s.bind a)
    | none => applyPositional r b a
  | _ => misfit s!"'{callee.kind.operandName}' object is not callable"

/-- The name of what is called in messages about the unpacking of its arguments. -/
def calleeTitle (callee : Value) : String :=
  let named (home name : String) : String :=
    if home == "builtins" then name ++ "()" else s!"{home}.{name}()"
  match callee.core with
  | .builtin .compilePattern => "re.compile()"
  | .builtin .parseMode => "typstry.core.modes.Mode.parse()"
  | .builtin .length => "len()"
  | .builtin .absolute => "abs()"
  | .builtin b =>
    match b.built? with
    | some kind => named kind.home kind.name
    | none => callee.shown
  | _ => callee.shown ++ "()"

end TypstMarkup.Expression
