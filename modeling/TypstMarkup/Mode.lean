import TypstMarkup.Text.Blank
import TypstMarkup.Text.Case

/-!
The three lexical modes of Typst source: code, markup and math.
-/
namespace TypstMarkup

inductive Mode where
  | code
  | markup
  | math
deriving DecidableEq, Repr, Inhabited

namespace Mode

def all : List Mode := [.code, .markup, .math]

def name : Mode → String
  | .code => "code"
  | .markup => "markup"
  | .math => "math"

/-- The name of a mode as a member of its enumeration. -/
def memberName : Mode → String
  | .code => "CODE"
  | .markup => "MARKUP"
  | .math => "MATH"

def number : Mode → Nat
  | .code => 0
  | .markup => 1
  | .math => 2

def sigil : Mode → String
  | .code => "#"
  | .markup => ""
  | .math => "$"

/-- Brings a token to the form mode names have: blanks around it dropped, lower case, and
underscores for dashes and spaces. -/
def normalise (token : List Char) : List Char :=
  (Text.lower (Text.strip token)).map fun c => if c == '-' || c == ' ' then '_' else c

/-- The mode a token names, by name in any case or by number. -/
def ofToken? (token : List Char) : Option Mode :=
  let form := normalise token
  all.find? fun mode => form == mode.name.toList || form == (toString mode.number).toList

def completions (incomplete : List Char) : List Mode :=
  all.filter fun mode => (Text.lower incomplete).isPrefixOf mode.name.toList

end Mode

end TypstMarkup
