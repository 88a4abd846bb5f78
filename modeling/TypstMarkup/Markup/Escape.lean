import TypstMarkup.Markup.Context
import TypstMarkup.Markup.Emission

/-!
Delimiters and escapes shared by the rules: the sigil that enters code, the delimiter of math,
quoted strings and the quotes inside regular expressions, and repeated texts.
-/
namespace TypstMarkup.Markup

/-- Writes the sigil of code mode unless the context is in code mode already. -/
def codeSigil (c : Context) : Emission :=
  .attempt c.mode fun mode => .text (if mode = .code then [] else ['#'])

/-- The delimiter that opens math: none in math mode, a dollar sign for inline math, and a dollar
sign with a blank for a block. -/
def mathPad (c : Context) : Except Fault (List Char) := do
  if (← c.mode) = .math then return []
  return if ← c.inline then ['$'] else ['$', ' ']

def replaceQuotes (replacement : List Char) (text : List Char) : List Char :=
  text.flatMap fun c => if c = '"' then replacement else [c]

/-- Writes a text as a string literal. In code and math mode the literal is quoted once more. -/
def quote (text : Except Fault (List Char)) (c : Context) : Emission :=
  .attempt c.mode fun mode =>
    if mode = .markup then
      .surround ['"'] (.attempt text fun s => .text (replaceQuotes ['\\', '"'] s))
    else
      .enclose ['"', '\\', '"']
        (.attempt text fun s => .text (replaceQuotes ['\\', '\\', '\\', '"'] s))
        ['\\', '"', '"']

/-- Escapes the double quotes that an even run of backslashes precedes; `odd` says whether the
characters before end in an odd run. -/
def escapeUnescapedFrom (odd : Bool) : List Char → List Char
  | [] => []
  | c :: rest =>
    if c = '"' then
      if odd then '"' :: escapeUnescapedFrom false rest
      else '\\' :: '"' :: escapeUnescapedFrom false rest
    else c :: escapeUnescapedFrom (c = '\\' && !odd) rest

/-- Escapes the double quotes that are not escaped yet. -/
def escapeUnescaped (text : List Char) : List Char :=
  escapeUnescapedFrom false text

/-- The length from which on a text does not fit in memory, the 34th power of two. -/
def memoryLimit : Nat := 0x400000000

/-- A text repeated a number of times, if the result can be represented. -/
def repeated (text : List Char) (count : Int) : Except Fault (List Char) :=
  if !fitsWord count then .error .notAnIndexSize
  else if text.isEmpty then .ok []
  else if wordLimit ≤ text.length * count then .error .repeatedTooLong
  else if memoryLimit ≤ text.length * count.toNat then .error .outOfMemory
  else .ok (List.replicate count.toNat text).flatten

/-- Writes a function's opening parenthesis and its parameters. Absent and empty parameters are
skipped, and a line feed ends the head. -/
def parameterHead (c : Context) (function : List Char) (keys : List String) : Emission :=
  .text (function ++ ['(']) ++
    (.concat (keys.map fun key => .attempt (c.parameter key) fun value =>
        .text (if value.isEmpty then [] else key.toList ++ ':' :: ' ' :: value ++ [',', ' '])) ++
      .text ['\n'])

end TypstMarkup.Markup
