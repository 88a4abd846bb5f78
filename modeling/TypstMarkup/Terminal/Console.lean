import TypstMarkup.Terminal.Style

/-!
The console of a program: ordinary output, warnings and errors. Without colour, every line is
written without codes, also those that were part of the text.
-/
namespace TypstMarkup.Terminal

structure Console where
  coloured : Bool := true

namespace Console

/-- What is written for a text; a line feed ends it unless it is left open. -/
def written (c : Console) (text : List Char) (ended : Bool) : List Char :=
  let text := if ended then text ++ ['\n'] else text
  if c.coloured then text else plain text

def warning (c : Console) (text : List Char) (ended : Bool) : List Char :=
  c.written (Style.apply { colour := some .yellow } text) ended

def error (c : Console) (text : List Char) (ended : Bool) : List Char :=
  c.written (Style.apply { colour := some .brightRed } text) ended

/-- A styled text; without colour it stays as it is. -/
def styled (c : Console) (s : Style) (text : List Char) : List Char :=
  if c.coloured then s.apply text else text

end Console

end TypstMarkup.Terminal
