/-!
Parts of texts: whether a text occurs in another, and the parts between the occurrences of a
separator. Occurrences are taken from the left and do not overlap.
-/
namespace TypstMarkup.Text

def occursIn (part : List Char) : List Char → Bool
  | [] => part.isEmpty
  | c :: rest => part.isPrefixOf (c :: rest) || occursIn part rest

/-- Splits at a separator; `part` holds the open part, reversed, and `skip` counts the characters
that still belong to the last separator. -/
def splitFrom (separator : List Char) : Nat → List Char → List Char → List (List Char)
  | _, part, [] => [part.reverse]
  | skip + 1, part, _ :: rest => splitFrom separator skip part rest
  | 0, part, c :: rest =>
    if separator.isPrefixOf (c :: rest) then
      part.reverse :: splitFrom separator (separator.length - 1) [] rest
    else splitFrom separator 0 (c :: part) rest

/-- The parts of a text between the occurrences of a separator that is not empty. -/
def splitOn (separator text : List Char) : List (List Char) :=
  splitFrom separator 0 [] text

def occurrences (separator text : List Char) : Nat :=
  (splitOn separator text).length - 1

/-- What stands before and after an occurrence of a separator, counted from one. -/
def cutAt? (separator : List Char) (occurrence : Nat) (text : List Char) :
    Option (List Char × List Char) :=
  let parts := splitOn separator text
  if parts.length ≤ occurrence then none
  else some (separator.intercalate (parts.take occurrence),
    separator.intercalate (parts.drop occurrence))

/-- A text without so many characters at either end. -/
def inner (width : Nat) (text : List Char) : List Char :=
  (text.drop width).take (text.length - 2 * width)

def endsInEscape (text : List Char) : Bool :=
  (text.reverse.takeWhile (· == '\\')).length % 2 == 1

end TypstMarkup.Text
