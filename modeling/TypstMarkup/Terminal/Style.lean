import TypstMarkup.Fault

/-!
Styled text for terminals. A style opens with codes, the colour first, and one code at the end
closes all of them; a text without colour drops every code in it.
-/
namespace TypstMarkup.Terminal

inductive Colour where
  | black | red | green | yellow | blue | magenta | cyan | white
  | brightBlack | brightRed | brightGreen | brightYellow
  | brightBlue | brightMagenta | brightCyan | brightWhite
  | unset
deriving DecidableEq, Repr

namespace Colour

def code : Colour → Nat
  | .black => 30
  | .red => 31
  | .green => 32
  | .yellow => 33
  | .blue => 34
  | .magenta => 35
  | .cyan => 36
  | .white => 37
  | .unset => 39
  | .brightBlack => 90
  | .brightRed => 91
  | .brightGreen => 92
  | .brightYellow => 93
  | .brightBlue => 94
  | .brightMagenta => 95
  | .brightCyan => 96
  | .brightWhite => 97

def names : List (String × Colour) :=
  [("black", .black), ("red", .red), ("green", .green), ("yellow", .yellow), ("blue", .blue),
    ("magenta", .magenta), ("cyan", .cyan), ("white", .white), ("reset", .unset),
    ("bright_black", .brightBlack), ("bright_red", .brightRed), ("bright_green", .brightGreen),
    ("bright_yellow", .brightYellow), ("bright_blue", .brightBlue),
    ("bright_magenta", .brightMagenta), ("bright_cyan", .brightCyan),
    ("bright_white", .brightWhite)]

def named (name : String) : Except Fault Colour :=
  match names.find? fun entry => entry.1 == name with
  | some entry => .ok entry.2
  | none => .error (.failed .typeError s!"Unknown color {Text.quotedString name}")

end Colour

def code (number : Nat) : List Char :=
  '\x1b' :: '[' :: (toString number).toList ++ ['m']

/-- A style: what is set explicitly, on or off. -/
structure Style where
  colour : Option Colour := none
  bold : Option Bool := none
  underline : Option Bool := none

def Style.opening (s : Style) : List Char :=
  (s.colour.map fun colour => code colour.code).getD [] ++
    (s.bold.map fun on => code (if on then 1 else 22)).getD [] ++
    (s.underline.map fun on => code (if on then 4 else 24)).getD []

def Style.apply (s : Style) (text : List Char) : List Char :=
  s.opening ++ text ++ code 0

/-- Whether a character may stand between the opening of a code and its letter. -/
def isCodeArgument (c : Char) : Bool :=
  c.isDigit || c == ';' || c == '?'

def codeLength? (text : List Char) : Option Nat :=
  match text with
  | '\x1b' :: '[' :: rest =>
    let arguments := rest.takeWhile isCodeArgument
    match rest.drop arguments.length with
    | letter :: _ => if letter.isAlpha then some (arguments.length + 3) else none
    | [] => none
  | _ => none

/-- Drops codes from a text whose first characters may belong to a code already dropped. -/
def plainFrom : Nat → List Char → List Char
  | _, [] => []
  | skip + 1, _ :: rest => plainFrom skip rest
  | 0, c :: rest =>
    match codeLength? (c :: rest) with
    | some length => plainFrom (length - 1) rest
    | none => c :: plainFrom 0 rest

def plain (text : List Char) : List Char :=
  plainFrom 0 text

end TypstMarkup.Terminal
