import TypstMarkup.Text.Quoted
import TypstMarkup.Value.Basic

/-!
The shown form of a value, as it appears in messages and listings, and the plain text of a value.
Texts are quoted in the shown form and stand for themselves in the plain text.
-/
namespace TypstMarkup

/-- The shown form of a complex number; a positive zero real part is left out. -/
def shownComplex (re im : Binary64) : String :=
  let imaginary := im.written false
  if re == .zero false then String.ofList (imaginary ++ ['j'])
  else
    let signed := match imaginary with
      | '-' :: _ => imaginary
      | _ => '+' :: imaginary
    String.ofList ('(' :: re.written false ++ signed ++ ['j', ')'])

/-- The shown form of a progression; a step of one is left out. -/
def Progression.shown (r : Progression) : String :=
  if r.step = 1 then s!"range({r.start}, {r.stop})"
  else s!"range({r.start}, {r.stop}, {r.step})"

namespace PatternFlags

def shown (f : PatternFlags) : String :=
  let names := (if f.ascii then ["re.ASCII"] else []) ++
    (if f.ignoreCase then ["re.IGNORECASE"] else []) ++
    (if f.unicode then ["re.UNICODE"] else []) ++
    (if f.multiLine then ["re.MULTILINE"] else []) ++
    (if f.dotAll then ["re.DOTALL"] else []) ++
    (if f.verbose then ["re.VERBOSE"] else [])
  if names.isEmpty then "re.NOFLAG" else "|".intercalate names

def patternNames (f : PatternFlags) : List String :=
  (if f.ignoreCase then ["re.IGNORECASE"] else []) ++
    (if f.multiLine then ["re.MULTILINE"] else []) ++
    (if f.dotAll then ["re.DOTALL"] else []) ++
    (if f.verbose then ["re.VERBOSE"] else []) ++
    (if f.ascii then ["re.ASCII"] else [])

end PatternFlags

/-- The shown form of a regular expression; its source is cut after two hundred characters. -/
def Pattern.shown (p : Pattern) : String :=
  let (source, flags) := match p with
    | .text source flags => (Text.quoted source.toList, flags)
    | .bytes source flags => (Text.quotedBytes source, flags)
  let options := match flags.patternNames with
    | [] => ""
    | names => ", " ++ "|".intercalate names
  s!"re.compile({String.ofList (source.take 200)}{options})"

def Builtin.shown : Builtin → String
  | .mode => "<enum 'Mode'>"
  | .length => "<built-in function len>"
  | .absolute => "<built-in function abs>"
  | .representation => "<built-in function repr>"
  | .sorted => "<built-in function sorted>"
  | .sum => "<built-in function sum>"
  | .minimum => "<built-in function min>"
  | .maximum => "<built-in function max>"
  | .any => "<built-in function any>"
  | .all => "<built-in function all>"
  | .patternModule => "<module 're'>"
  | .compilePattern => "<function compile>"
  | .parseMode => "<bound method Mode.parse of <enum 'Mode'>>"
  | c => match c.built? with
    | some kind => kind.shown
    | none => "<function>"

def bracketed (left right : String) (items : List String) : String :=
  left ++ ", ".intercalate items ++ right

/-- The shown form of a tuple; a single item is followed by a comma. -/
def shownTuple : List String → String
  | [item] => s!"({item},)"
  | items => bracketed "(" ")" items

namespace Value

mutual

def shown : Value → String
  | .null => "None"
  | .bool b => if b then "True" else "False"
  | .int n => toString n
  | .float x => x.toText
  | .complex re im => shownComplex re im
  | .decimal d => s!"Decimal('{d.toText}')"
  | .fraction q => s!"Fraction({q.num}, {q.den})"
  | .char c => s!"Char({Text.quotedString (String.singleton c)})"
  | .str text => Text.quotedString text
  | .verbatim text => s!"TypstText(text={Text.quotedString text})"
  | .markup text => s!"TypstString(TypstText({Text.quotedString text}))"
  | .raw text language =>
    s!"Raw(text={Text.quotedString text}, lang={Text.quotedString language})"
  | .pattern p => p.shown
  | .flags f => f.shown
  | .bytes data => String.ofList (Text.quotedBytes data)
  | .mode m => s!"<Mode.{m.memberName}: {m.number}>"
  | .range r => r.shown
  | .list items => bracketed "[" "]" (shownAll items)
  | .tuple items => shownTuple (shownAll items)
  | .set items => if items.isEmpty then "set()" else bracketed "\x7b" "\x7d" (shownAll items)
  | .dict entries => bracketed "\x7b" "\x7d" (shownEntries entries)
  | .matrix rows => "Matrix(" ++ bracketed "[" "]" (shownRows rows) ++ ")"
  | .array kind _ _ _ => s!"<{kind.qualifiedName} object>"
  | .object kind core _ => shownObject kind core
  | .builtin b => b.shown
  | .foreign _ shown => shown

/-- The shown form of an object. Some kinds show the name of the kind derived from them. -/
def shownObject (kind : Kind) : Option Value → String
  | none => s!"<{kind.qualifiedName} object>"
  | some (.fraction q) => s!"{kind.name}({q.num}, {q.den})"
  | some (.verbatim text) => s!"{kind.name}(text={Text.quotedString text})"
  | some (.raw text language) =>
    s!"{kind.name}(text={Text.quotedString text}, lang={Text.quotedString language})"
  | some v => shown v

def shownAll : List Value → List String
  | [] => []
  | v :: rest => shown v :: shownAll rest

def shownEntries : List (Value × Value) → List String
  | [] => []
  | (key, v) :: rest => (shown key ++ ": " ++ shown v) :: shownEntries rest

def shownRows : List (List Value) → List String
  | [] => []
  | row :: rest => bracketed "[" "]" (shownAll row) :: shownRows rest

end

def plainText (v : Value) : String :=
  match v.core with
  | .str text | .markup text => text
  | .char c => String.singleton c
  | .decimal d => d.toText
  | .fraction q => if q.den = 1 then toString q.num else s!"{q.num}/{q.den}"
  | .mode m => m.name
  | _ => v.shown

end Value

/-- The least number with too many digits to be written. -/
def digitLimit : Nat := tenTo 4300

def overlong (n : Int) : Bool :=
  digitLimit ≤ n.natAbs

namespace Value

mutual

/-- Whether the shown form of a value would hold an integer with too many digits. -/
def overlong : Value → Bool
  | .int n => TypstMarkup.overlong n
  | .fraction q => TypstMarkup.overlong q.num || TypstMarkup.overlong q.den
  | .range r =>
    TypstMarkup.overlong r.start || TypstMarkup.overlong r.stop || TypstMarkup.overlong r.step
  | .list items | .tuple items | .set items => overlongAny items
  | .dict entries => overlongEntry entries
  | .matrix rows => overlongRow rows
  | .object _ (some v) _ => overlong v
  | _ => false

def overlongAny : List Value → Bool
  | [] => false
  | v :: rest => overlong v || overlongAny rest

def overlongEntry : List (Value × Value) → Bool
  | [] => false
  | (key, v) :: rest => overlong key || overlong v || overlongEntry rest

def overlongRow : List (List Value) → Bool
  | [] => false
  | row :: rest => overlongAny row || overlongRow rest

end

end Value

end TypstMarkup
