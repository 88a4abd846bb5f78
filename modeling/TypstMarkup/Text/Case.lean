/-!
Case mapping as far as ASCII can see it. Besides the ASCII letters, the mapped characters are those
whose lower or upper form is ASCII; every other character keeps its form, so these functions serve
to compare with ASCII words and for nothing else.
-/
namespace TypstMarkup.Text

/-- The lower-case form: the Kelvin sign becomes the letter k. -/
def lowerChar (c : Char) : Char :=
  if c.toNat == 0x212a then 'k' else c.toLower

def lower (text : List Char) : List Char :=
  text.map lowerChar

/-- The upper-case form: dotless i, long s, sharp s and the Latin ligatures become ASCII. -/
def upperChar (c : Char) : List Char :=
  match c.toNat with
  | 0xdf => ['S', 'S']
  | 0x131 => ['I']
  | 0x17f => ['S']
  | 0xfb00 => ['F', 'F']
  | 0xfb01 => ['F', 'I']
  | 0xfb02 => ['F', 'L']
  | 0xfb03 => ['F', 'F', 'I']
  | 0xfb04 => ['F', 'F', 'L']
  | 0xfb05 => ['S', 'T']
  | 0xfb06 => ['S', 'T']
  | _ => [c.toUpper]

def upper (text : List Char) : List Char :=
  text.flatMap upperChar

end TypstMarkup.Text
