import TypstMarkup.Text.Quoted
import TypstMarkup.Text.Digit

/-!
Keys and basic strings. A key of letters, digits, underscores and dashes stands bare; every other
key is written as a basic string: between double quotes, with short escapes for the common
controls and four hexadecimal digits for the others.
-/
namespace TypstMarkup.Toml

def isBareChar (c : Char) : Bool :=
  c.isAlphanum || c == '_' || c == '-'

def isControl (c : Char) : Bool :=
  c.toNat < 0x20 || c.toNat == 0x7f

def basicChar (c : Char) : List Char :=
  match c with
  | '\x08' => ['\\', 'b']
  | '\t' => ['\\', 't']
  | '\n' => ['\\', 'n']
  | '\x0c' => ['\\', 'f']
  | '\r' => ['\\', 'r']
  | '"' => ['\\', '"']
  | '\\' => ['\\', '\\']
  | c => if isControl c then '\\' :: 'u' :: Text.hexDigits 4 c.toNat else [c]

def basicString (text : List Char) : List Char :=
  '"' :: text.flatMap basicChar ++ ['"']

def writtenKey (key : List Char) : List Char :=
  if !key.isEmpty && key.all isBareChar then key else basicString key

/-- A key and the text it is written as. -/
structure Key where
  name : String
  written : List Char

def Key.ofName (name : String) : Key :=
  ⟨name, writtenKey name.toList⟩

def pathText (path : List Key) : List Char :=
  ['.'].intercalate (path.map Key.written)

end TypstMarkup.Toml
