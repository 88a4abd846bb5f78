import TypstMarkup.Markup.Escape
import TypstMarkup.Value.Conversion
import TypstMarkup.Value.Items

/-!
The built-in rules. Each writes one kind of values; a rule that has to write other values calls the
writer it is given. A rule applied to a value of a foreign kind fails where it first needs something
the value lacks.
-/
namespace TypstMarkup.Markup

/-- Writes a value under a context. -/
abbrev Writer := Value → Context → Emission

inductive BuiltinRule where
  | bool | integer | float | decimal | fraction | complex | char | string | pattern | null | range
  | verbatim | markup | raw | vector | matrix
deriving DecidableEq, Repr

def BuiltinRule.name : BuiltinRule → String
  | .bool => "show_bool"
  | .integer => "show_integer"
  | .float => "show_float"
  | .decimal => "show_decimal"
  | .fraction => "show_fraction"
  | .complex => "show_complex"
  | .char => "show_char"
  | .string => "show_string"
  | .pattern => "show_pattern"
  | .null => "show_none"
  | .range => "show_range"
  | .verbatim => "show_text"
  | .markup => "show_typst_string"
  | .raw => "show_raw"
  | .vector => "show_vector"
  | .matrix => "show_matrix"

/-- A value without a member that a rule needs. -/
def lacks (v : Value) (member : String) : Fault :=
  .noAttribute s!"'{v.kind.operandName}' object" member

/-- The digits of an integer, unless there are too many. -/
def integerText (n : Int) : Except Fault (List Char) :=
  if overlong n then .error .tooManyDigits else .ok (toString n).toList

/-- The characters of a text, for operations that only texts have. -/
def textOf (v : Value) : Except Fault (List Char) :=
  match v.text? with
  | some text => .ok text.toList
  | none => .error (lacks v "replace")

def plainOf (v : Value) : Except Fault (List Char) :=
  match v.text? with
  | some text => .ok text.toList
  | none =>
    .error (.failed .typeError
      s!"descriptor '__str__' requires a 'str' object but received a '{v.kind.operandName}'")

/-- Writes a truth value: quoted in math, after the sigil in markup, bare in code. -/
def writeBool (v : Value) (c : Context) : Emission :=
  let word := if v.isTrue then ['t', 'r', 'u', 'e'] else ['f', 'a', 'l', 's', 'e']
  .attempt c.mode fun mode =>
    match mode with
    | .math => .surround ['"'] (.text word)
    | .markup => .text ('#' :: word)
    | .code => .text word

def writeInteger (v : Value) : Emission :=
  .attempt v.toInteger? fun n => .attemptText (integerText n)

def writeFloat (v : Value) : Emission :=
  .attempt v.toFloating? fun x => .text (x.written true)

def ratio? (v : Value) : Option (Int × Int) :=
  match v.core with
  | .fraction q => some (q.num, q.den)
  | v => v.int?.map (·, 1)

/-- Writes a quotient of integers: in math delimiters from markup, in parentheses otherwise. -/
def writeFraction (write : Writer) (v : Value) (c : Context) : Emission :=
  let body (inner : Context) : Emission :=
    match ratio? v with
    | some (numerator, denominator) =>
      write (.int numerator) inner ++ (.text [' ', '/', ' '] ++ write (.int denominator) inner)
    | none => .fail (lacks v "numerator")
  .attempt c.mode fun mode =>
    if mode = .markup then
      .attempt (mathPad c) fun pad => .surround pad (body (c.withMode .math))
    else .enclose ['('] (body c) [')']

/-- A part of a complex number; a whole number in positional notation has no point. -/
def complexPart (x : Binary64) : List Char :=
  x.written false

/-- The real and the imaginary part of a number as a complex rule sees them. -/
def complexParts (v : Value) : Except Fault (Binary64 × Binary64) :=
  match v.core with
  | .complex re im => .ok (re, im)
  | .float x => .ok (x, .zero false)
  | .decimal _ | .fraction _ => .error (lacks v "is_integer")
  | .bool _ | .int _ | .flags _ => .error (.noAttribute "'int' object" "is_integer")
  | _ => .error (lacks v "imag")

def writeComplex (v : Value) (c : Context) : Emission :=
  .attempt (complexParts v) fun (re, im) =>
    let sign := if im.isNegative then '-' else '+'
    let text := complexPart re ++ ' ' :: sign :: ' ' :: complexPart im.abs ++ ['i']
    .attempt (mathPad c) fun pad => .surround pad (.text text)

/-- Writes a character: a string literal in code, the character itself otherwise. -/
def writeChar (v : Value) (c : Context) : Emission :=
  .attempt c.mode fun mode =>
    if mode = .code then
      .surround ['"'] (.attempt (textOf v) fun s =>
        .text (s.flatMap fun c => if c = '\\' || c = '"' then ['\\', c] else [c]))
    else .attemptText (plainOf v)

def writeString (v : Value) (c : Context) : Emission :=
  quote (textOf v) c

def patternLetters (f : PatternFlags) : List Char :=
  (if f.ignoreCase then ['i'] else []) ++ (if f.multiLine then ['m'] else []) ++
    (if f.dotAll then ['s'] else []) ++ (if f.verbose then ['x'] else [])

def patternSource (source : List Char) (f : PatternFlags) : List Char :=
  match patternLetters f with
  | [] => source
  | letters => '(' :: '?' :: letters ++ ')' :: source

/-- Writes a call that builds a regular expression. Its quotes are closed exactly at the end. -/
def writePattern (v : Value) (c : Context) : Emission :=
  match v.core with
  | .pattern (.text source f) =>
    codeSigil c ++
      .enclose "regex(\"".toList (.text (escapeUnescaped (patternSource source.toList f)))
        ['"', ')']
  | .pattern (.bytes _ _) => .fail (.unsupportedKind .bytes)
  | _ => .fail (lacks v "pattern")

/-- Writes nothing in markup and an empty string literal otherwise. -/
def writeNull (c : Context) : Emission :=
  .attempt c.mode fun mode => .text (if mode = .markup then [] else ['"', '"'])

/-- The bound written for a progression: one beyond the last element in the direction of the step,
or the start if there is no element. -/
def writtenStop (r : Progression) : Int :=
  match r.last? with
  | some last => if 0 < r.step then last + 1 else last - 1
  | none => r.start

def writeRange (write : Writer) (v : Value) (c : Context) : Emission :=
  match v.core with
  | .range r =>
    if wordLimit ≤ r.length then .fail .notANativeSize
    else
      let inner := c.withMode .code
      codeSigil c ++
        .enclose "range(".toList
          (write (.int r.start) inner ++ (.text [',', ' '] ++ (write (.int (writtenStop r)) inner ++
            (.text ", step: ".toList ++ write (.int r.step) inner))))
          [')']
  | _ => .fail (lacks v "start")

def writeVerbatim (v : Value) : Emission :=
  match v.core with
  | .verbatim text | .raw text _ => .text text.toList
  | _ => .fail (lacks v "text")

def writeMarkup (v : Value) : Emission :=
  .attemptText (plainOf v)

def backticks (c : Context) : Except Fault Int :=
  match Context.properInt? (c.found "backticks") with
  | some n =>
    if 3 ≤ n then .ok n
    else .error (.ofSetting "backticks" (c.found "backticks") "an int >= 3")
  | none => .error (.ofSetting "backticks" (c.found "backticks") "an int >= 3")

def isBlock (c : Context) : Except Fault Bool :=
  match c.get? "block" with
  | some (.bool b) => .ok b
  | _ => .error (.ofSetting "block" (c.found "block") "a bool")

/-- Writes a raw element between fences, after the sigil in math. -/
def writeRaw (v : Value) (c : Context) : Emission :=
  .attempt (backticks c) fun count =>
    .attempt (isBlock c) fun block =>
      .attempt c.mode fun mode =>
        .text (if mode = .math then ['#'] else []) ++
          .attempt (repeated ['\x60'] count) fun fence =>
            match v.core with
            | .raw text language =>
              .enclose (fence ++ language.toList ++ [if block then '\n' else ' '])
                (.text text.toList) (if block then '\n' :: fence else fence)
            | _ => .fail (lacks v "lang")

def vectorParameters : List String := ["delim", "gap"]

def matrixParameters : List String := ["delim", "augment", "gap", "row_gap", "column_gap"]

def writeElements (write : Writer) (c : Context) (items : List Value) : Emission :=
  .join [',', ' '] (items.map fun v => write v c)

def closing (indent : List Char) (depth : Nat) : Emission :=
  .attempt (repeated indent depth) fun spaces => .text ('\n' :: spaces ++ [')'])

/-- Writes a sequence as a vector: its elements on one line, a step deeper and in math mode. -/
def writeVector (write : Writer) (v : Value) (c : Context) : Emission :=
  .attempt c.depth fun depth =>
    .attempt c.indent fun indent =>
      -- The delimiter is that of the mode around, the elements are in math already.
      let math := c.withMode .math
      .attempt (mathPad c) fun pad => .surround pad
        (parameterHead math "vec".toList vectorParameters ++
          (.attempt (repeated indent (depth + 1)) fun spaces => .text spaces ++
            ((.attempt v.items? fun items => writeElements write (math.withDepth (depth + 1)) items)
              ++ closing indent depth)))

def rowsOf (v : Value) : Except Fault (List (Except Fault (List Value))) :=
  match v.core with
  | .matrix rows => .ok (rows.map .ok)
  | _ => v.items?.map fun items => items.map Value.items?

def writeRow (write : Writer) (c : Context) (spaces : Except Fault (List Char))
    (row : Except Fault (List Value)) : Emission :=
  .attempt spaces fun spaces => .text spaces ++ .attempt row (writeElements write c)

/-- Writes a matrix, one row a line, a step deeper and in math mode. -/
def writeMatrix (write : Writer) (v : Value) (c : Context) : Emission :=
  .attempt c.depth fun depth =>
    .attempt c.indent fun indent =>
      let inner := (c.withMode .math).withDepth (depth + 1)
      .attempt (mathPad c) fun pad => .surround pad
        (parameterHead inner "mat".toList matrixParameters ++
          ((.attempt (rowsOf v) fun rows =>
              .join [';', '\n'] (rows.map (writeRow write inner (repeated indent (depth + 1)))))
            ++ closing indent depth))

def BuiltinRule.apply (rule : BuiltinRule) (write : Writer) (v : Value) (c : Context) :
    Emission :=
  match rule with
  | .bool => writeBool v c
  | .integer => writeInteger v
  | .float => writeFloat v
  | .decimal => .attempt v.plainText? fun text => .text text.toList
  | .fraction => writeFraction write v c
  | .complex => writeComplex v c
  | .char => writeChar v c
  | .string => writeString v c
  | .pattern => writePattern v c
  | .null => writeNull c
  | .range => writeRange write v c
  | .verbatim => writeVerbatim v
  | .markup => writeMarkup v
  | .raw => writeRaw v c
  | .vector => writeVector write v c
  | .matrix => writeMatrix write v c

end TypstMarkup.Markup
