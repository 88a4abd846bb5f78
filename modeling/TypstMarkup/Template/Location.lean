import TypstMarkup.Text.Blank

/-!
Places in a text. Lines are counted by line feeds alone, while the text of a line is taken from the
division at all line ends, so the two need not speak of the same line.
-/
namespace TypstMarkup.Template

/-- A place in a text: the line and the column, both counted from one, and the text of the line. -/
structure Location where
  line : Nat
  column : Nat
  text : String
deriving DecidableEq, Repr

/-- The number of characters up to and with the last line feed. -/
def lineStart (before : List Char) : Nat :=
  before.length - (before.reverse.takeWhile (· != '\n')).length

/-- The text of a line, counted from one, of a divided text; the empty text has an empty line. -/
def lineText? (source : List Char) (line : Nat) : Option String :=
  if source.isEmpty then some ""
  else ((Text.lines source)[line - 1]?).map String.ofList

/-- The place of a position in a source, if the line counted has a text. -/
def locate? (source : List Char) (position : Nat) : Option Location :=
  let before := source.take position
  let line := before.count '\n' + 1
  (lineText? source line).map fun text => ⟨line, position - lineStart before + 1, text⟩

end TypstMarkup.Template
