import TypstMarkup.Text.Range

/-!
Blank characters and line ends. Blanks include the separators U+001C to U+001F, the next-line
control and the Unicode spaces; ten characters end a line, and a carriage return followed by a line
feed ends one line, not two.
-/
namespace TypstMarkup.Text

def isBlank (c : Char) : Bool :=
  inRanges [(0x09, 0x0d), (0x1c, 0x20), (0x85, 0x85), (0xa0, 0xa0), (0x1680, 0x1680),
    (0x2000, 0x200a), (0x2028, 0x2029), (0x202f, 0x202f), (0x205f, 0x205f), (0x3000, 0x3000)]
    c.toNat

def strip (text : List Char) : List Char :=
  ((text.dropWhile isBlank).reverse.dropWhile isBlank).reverse

def isLineEnd (c : Char) : Bool :=
  inRanges [(0x0a, 0x0d), (0x1c, 0x1e), (0x85, 0x85), (0x2028, 0x2029)] c.toNat

/-- Splits at line ends, dropping them; `line` holds the open line, reversed. -/
def linesFrom (line : List Char) : List Char → List (List Char)
  | [] => if line.isEmpty then [] else [line.reverse]
  | '\r' :: '\n' :: rest => line.reverse :: linesFrom [] rest
  | c :: rest =>
    if isLineEnd c then line.reverse :: linesFrom [] rest else linesFrom (c :: line) rest

/-- The lines of a text without their ends. A line end at the very end opens no further line. -/
def lines (text : List Char) : List (List Char) :=
  linesFrom [] text

end TypstMarkup.Text
