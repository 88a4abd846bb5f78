import TypstMarkup.Value.Equality
import TypstMarkup.Fault
import TypstMarkup.OrderedMap

/-!
The settings under which a value is written. Four core settings are read through accessors that
check the kind of the value found; all other keys are parameters, which must be texts.
-/
namespace TypstMarkup

/-- Ordered settings. -/
abbrev Context := OrderedMap Value

namespace Context

/-- The core settings and their defaults. -/
def default : Context :=
  OrderedMap.ofList [("mode", .mode .markup), ("inline", .bool true),
    ("indent", .str "    "), ("depth", .int 0)]

def found (c : Context) (key : String) : Value :=
  (c.get? key).getD .null

def mode (c : Context) : Except Fault Mode :=
  match c.get? "mode" with
  | some (.mode m) => .ok m
  | _ => .error (.ofSetting "mode" (c.found "mode") "a typstry Mode")

def inline (c : Context) : Except Fault Bool :=
  match c.get? "inline" with
  | some (.bool b) => .ok b
  | _ => .error (.ofSetting "inline" (c.found "inline") "a bool")

def indent (c : Context) : Except Fault (List Char) :=
  match (c.found "indent").text? with
  | some text => .ok text.toList
  | none => .error (.ofSetting "indent" (c.found "indent") "a str")

/-- An integer that is no truth value. -/
def properInt? (v : Value) : Option Int :=
  match v.core with
  | .bool _ => none
  | v => v.int?

def depth (c : Context) : Except Fault Nat :=
  match properInt? (c.found "depth") with
  | some n =>
    if 0 ≤ n then .ok n.toNat
    else .error (.ofSetting "depth" (c.found "depth") "a non-negative int")
  | none => .error (.ofSetting "depth" (c.found "depth") "a non-negative int")

/-- A parameter; an absent one is the empty text. -/
def parameter (c : Context) (key : String) : Except Fault (List Char) :=
  match c.get? key with
  | none => .ok []
  | some v =>
    match v.text? with
    | some text => .ok text.toList
    | none => .error (.ofSetting key v "a str of Typst source")

def withMode (c : Context) (m : Mode) : Context :=
  c.insert "mode" (.mode m)

def withDepth (c : Context) (depth : Nat) : Context :=
  c.insert "depth" (.int depth)

/-- Settings changed by others and then by further ones. -/
def derive (c overrides : Context) (further : Context := OrderedMap.empty) : Context :=
  (c.update overrides).update further

/-- Whether two contexts hold equal values under the same keys, in whatever order. -/
def same (c d : Context) : Bool :=
  c.size == d.size && c.entries.all fun entry =>
    match d.get? entry.1 with
    | some v => entry.2.same v
    | none => false

def shown (c : Context) : String :=
  bracketed "FormatContext(" ")" (c.entries.map fun entry => entry.1 ++ "=" ++ entry.2.shown)

/-- The shown form of a context, if its integers can be written. -/
def shown? (c : Context) : Except Fault String :=
  if c.entries.any fun entry => entry.2.overlong then .error .tooManyDigits else .ok c.shown

end Context

end TypstMarkup
