import TypstMarkup.Text.Printable

/-!
Quoted text. The quote is the apostrophe, or the double quote for a text that holds an apostrophe
and no double quote. Backslash, the quote itself, tab, line feed and carriage return have short
escapes; other unprintable characters are written by their code point in two, four or eight
hexadecimal digits.
-/
namespace TypstMarkup.Text

/-- The last `width` hexadecimal digits of a number, in lower case. -/
def hexDigits : Nat → Nat → List Char
  | 0, _ => []
  | width + 1, n => hexDigits width (n / 16) ++ [Nat.digitChar (n % 16)]

def quoteFor (text : List Char) : Char :=
  if text.contains '\'' && !text.contains '"' then '"' else '\''

def escapePoint (n : Nat) : List Char :=
  if n < 0x100 then '\\' :: 'x' :: hexDigits 2 n
  else if n < 0x10000 then '\\' :: 'u' :: hexDigits 4 n
  else '\\' :: 'U' :: hexDigits 8 n

def quotedChar (quote c : Char) : List Char :=
  if c == quote || c == '\\' then ['\\', c]
  else if c == '\t' then ['\\', 't']
  else if c == '\n' then ['\\', 'n']
  else if c == '\r' then ['\\', 'r']
  else if isPrintable c then [c]
  else escapePoint c.toNat

def quoted (text : List Char) : List Char :=
  let quote := quoteFor text
  quote :: text.flatMap (quotedChar quote) ++ [quote]

def quotedString (text : String) : String :=
  String.ofList (quoted text.toList)

/-- A shown form with all but ASCII escaped. -/
def asciiOnly (text : String) : String :=
  String.ofList (text.toList.flatMap fun c => if c.toNat < 0x80 then [c] else escapePoint c.toNat)

/-- One byte of quoted bytes: ASCII as in text, everything else in two hexadecimal digits. -/
def quotedByte (quote : Char) (byte : UInt8) : List Char :=
  if byte.toNat < 0x80 then quotedChar quote (Char.ofNat byte.toNat)
  else escapePoint byte.toNat

/-- Bytes between quotes, marked by a leading letter b. -/
def quotedBytes (bytes : List UInt8) : List Char :=
  let quote := quoteFor (bytes.map fun byte => Char.ofNat byte.toNat)
  'b' :: quote :: bytes.flatMap (quotedByte quote) ++ [quote]

end TypstMarkup.Text
