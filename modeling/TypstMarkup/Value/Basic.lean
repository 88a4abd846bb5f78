import TypstMarkup.Mode
import TypstMarkup.Number.Notation
import TypstMarkup.Number.Decimal
import TypstMarkup.Value.Kind

/-!
Values. A value is a scalar, a text, a container, an array that stands for a container, an object of
a declared kind, or something known by its kind only.
-/
namespace TypstMarkup

/-- An arithmetic progression `start, start + step, ...` that stops strictly before `stop`. -/
structure Progression where
  start : Int
  stop : Int
  step : Int
  step_ne_zero : step ≠ 0
deriving DecidableEq, Repr

namespace Progression

def length (r : Progression) : Nat :=
  if 0 < r.step then
    if r.start < r.stop then ((r.stop - r.start - 1) / r.step).toNat + 1 else 0
  else
    if r.stop < r.start then ((r.start - r.stop - 1) / -r.step).toNat + 1 else 0

/-- The element at a position; positions outside continue the progression. -/
def get (r : Progression) (position : Int) : Int :=
  r.start + position * r.step

def last? (r : Progression) : Option Int :=
  if r.length = 0 then none else some (r.get ((r.length : Int) - 1))

def toList (r : Progression) : List Int :=
  (List.range r.length).map fun (position : Nat) => r.get position

end Progression

structure PatternFlags where
  ignoreCase : Bool := false
  multiLine : Bool := false
  dotAll : Bool := false
  verbose : Bool := false
  ascii : Bool := false
  unicode : Bool := false
deriving DecidableEq, Repr, Inhabited

namespace PatternFlags

/-- The number of a set of options; every option has a bit of its own. -/
def number (f : PatternFlags) : Nat :=
  (if f.ignoreCase then 2 else 0) + (if f.multiLine then 8 else 0) +
    (if f.dotAll then 16 else 0) + (if f.unicode then 32 else 0) +
    (if f.verbose then 64 else 0) + (if f.ascii then 256 else 0)

def ofNumber (n : Nat) : PatternFlags :=
  { ignoreCase := n / 2 % 2 == 1, multiLine := n / 8 % 2 == 1, dotAll := n / 16 % 2 == 1
    unicode := n / 32 % 2 == 1, verbose := n / 64 % 2 == 1, ascii := n / 256 % 2 == 1 }

def union (f g : PatternFlags) : PatternFlags :=
  { ignoreCase := f.ignoreCase || g.ignoreCase, multiLine := f.multiLine || g.multiLine
    dotAll := f.dotAll || g.dotAll, verbose := f.verbose || g.verbose
    ascii := f.ascii || g.ascii, unicode := f.unicode || g.unicode }

end PatternFlags

inductive Pattern where
  | text (source : String) (flags : PatternFlags)
  | bytes (source : List UInt8) (flags : PatternFlags)
deriving DecidableEq, Repr

/-- Something that expressions find in their surroundings: a kind, a function or a module. -/
inductive Builtin where
  | char | decimal | fraction | matrix | mode | raw | verbatim | markup
  | bool | int | float | complex | str | list | tuple | dict | set | range | bytes
  | length | absolute | representation | sorted | sum | minimum | maximum | any | all
  | compilePattern | parseMode | patternModule
deriving DecidableEq, Repr

inductive Value where
  | null
  | bool (b : Bool)
  | int (n : Int)
  | float (x : Binary64)
  | complex (re im : Binary64)
  | decimal (d : Decimal)
  | fraction (q : Rat)
  /-- A single character. -/
  | char (c : Char)
  | str (text : String)
  /-- Text inserted as it is. -/
  | verbatim (text : String)
  /-- Finished Typst source. -/
  | markup (text : String)
  /-- A raw element with an optional language tag. -/
  | raw (text language : String)
  | pattern (p : Pattern)
  | flags (f : PatternFlags)
  | bytes (data : List UInt8)
  | mode (m : Mode)
  | range (r : Progression)
  | list (items : List Value)
  | tuple (items : List Value)
  | set (items : List Value)
  | dict (entries : List (Value × Value))
  | matrix (rows : List (List Value))
  /-- Something with dimensions that may offer its items as a value. -/
  | array (kind : Kind) (dimensions items : Value) (offersItems : Bool)
  /-- An object of a declared kind, possibly carrying a value of a kind it derives from. -/
  | object (kind : Kind) (core payload : Option Value)
  | builtin (b : Builtin)
  /-- Something known by its kind and its shown form. -/
  | foreign (kind : Kind) (shown : String)
deriving Inhabited

def Builtin.kind : Builtin → Kind
  | .fraction | .matrix => .declared "abc" "ABCMeta"
  | .mode => .declared "enum" "EnumType"
  | .length | .absolute | .representation | .sorted | .sum | .minimum | .maximum | .any | .all =>
    .declared "builtins" "builtin_function_or_method"
  | .compilePattern => .declared "builtins" "function"
  | .parseMode => .declared "builtins" "method"
  | .patternModule => .declared "builtins" "module"
  | _ => .declared "builtins" "type"

/-- The kind that is meant, if a kind is. -/
def Builtin.built? : Builtin → Option Kind
  | .char => some .char
  | .decimal => some .decimal
  | .fraction => some .fraction
  | .matrix => some .matrix
  | .mode => some .mode
  | .raw => some .raw
  | .verbatim => some .verbatim
  | .markup => some .markup
  | .bool => some .bool
  | .int => some .int
  | .float => some .float
  | .complex => some .complex
  | .str => some .str
  | .list => some .list
  | .tuple => some .tuple
  | .dict => some .dict
  | .set => some .set
  | .range => some .range
  | .bytes => some .bytes
  | _ => none

namespace Value

def kind : Value → Kind
  | .null => .null
  | .bool _ => .bool
  | .int _ => .int
  | .float _ => .float
  | .complex _ _ => .complex
  | .decimal _ => .decimal
  | .fraction _ => .fraction
  | .char _ => .char
  | .str _ => .str
  | .verbatim _ => .verbatim
  | .markup _ => .markup
  | .raw _ _ => .raw
  | .pattern _ => .pattern
  | .flags _ => .flags
  | .bytes _ => .bytes
  | .mode _ => .mode
  | .range _ => .range
  | .list _ => .list
  | .tuple _ => .tuple
  | .set _ => .set
  | .dict _ => .dict
  | .matrix _ => .matrix
  | .array kind _ _ _ => kind
  | .object kind _ _ => kind
  | .builtin b => b.kind
  | .foreign kind _ => kind

/-- The value an object carries; every other value is its own. -/
def core : Value → Value
  | .object _ (some v) _ => v
  | v => v

/-- The text of a value that is a text: a string, a character or finished source. -/
def text? (v : Value) : Option String :=
  match v.core with
  | .str text | .markup text => some text
  | .char c => some (String.singleton c)
  | _ => none

def int? (v : Value) : Option Int :=
  match v.core with
  | .int n => some n
  | .bool b => some (if b then 1 else 0)
  | .flags f => some f.number
  | _ => none

end Value

end TypstMarkup
