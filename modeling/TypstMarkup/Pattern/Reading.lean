import TypstMarkup.Number.Based
import TypstMarkup.Text.Alphanumeric
import TypstMarkup.Text.Quoted

/-!
The source of a regular expression as it is read. It comes in pieces, a backslash together with the
character after it, and one piece is always looked at ahead: a single backslash at the end is
objected to as soon as the piece before it is taken.
-/
namespace TypstMarkup.Pattern

/-- The least and the greatest number of characters that something matches. -/
structure Width where
  least : Nat
  most : Nat
deriving DecidableEq, Repr

namespace Width

/-- The number that stands for every greater one. -/
def limit : Nat := twoTo 64

/-- The width of what matches nothing but a place. -/
def zero : Width := ⟨0, 0⟩

def one : Width := ⟨1, 1⟩

def add (w v : Width) : Width :=
  ⟨min limit (w.least + v.least), min limit (w.most + v.most)⟩

def either (w v : Width) : Width :=
  ⟨min w.least v.least, max w.most v.most⟩

def times (w : Width) (least : Nat) (most : Option Nat) : Width :=
  ⟨min limit (w.least * least),
    match most with
    | some most => min limit (w.most * most)
    | none => if w.most = 0 then 0 else limit⟩

end Width

inductive Objection where
  /-- The source cannot be read; the place may be unknown. -/
  | malformed (text : String) (position : Option Nat)
  /-- A bound of a repetition has too many digits to be read. -/
  | tooManyDigits (count : Nat)
  /-- A bound of a repetition is too large. -/
  | tooManyRepetitions
  /-- The options do not go together. -/
  | options (text : String)
deriving DecidableEq, Repr

/-- What is left of a source, and what is known from the part before. -/
structure Reading where
  pieces : List (List Char)
  position : Nat := 0
  /-- Whether the expression is one over text. -/
  overText : Bool
  /-- The letters of the options for the whole expression. -/
  options : List Char
  /-- The widths of the groups in the order of their brackets; a group that is open has none. -/
  groups : List (Option Width) := []
  names : List (String × Nat) := []
  /-- How many groups came before the outermost look-behind that is being read. -/
  lookBehind : Option Nat := none
  /-- The groups that conditions ask for by number, with the places of the numbers. -/
  conditions : List (Nat × Nat) := []
  /-- The look-behinds with the places where they start. -/
  lookBehinds : List (Nat × Width) := []

abbrev Parse := StateT Reading (Except Objection)

def pieces : List Char → List (List Char)
  | [] => []
  | '\\' :: c :: rest => ['\\', c] :: pieces rest
  | c :: rest => [c] :: pieces rest

def object {α : Type} (text : String) (position : Nat) : Parse α := do
  let text := if (← get).overText then text else Text.asciiOnly text
  throw (.malformed text (some position))

/-- Objects at a place so many characters before the next piece. -/
def objectBack {α : Type} (text : String) (back : Nat) : Parse α := do
  object text ((← get).position - back)

def peek : Parse (Option (List Char)) := do
  return (← get).pieces.head?

def checkEnd (pieces : List (List Char)) (position : Nat) : Except Objection Unit :=
  if pieces = [['\\']] then .error (.malformed "bad escape (end of pattern)" (some position))
  else .ok ()

def take : Parse (Option (List Char)) := do
  let s ← get
  match s.pieces with
  | [] => return none
  | piece :: rest =>
    let position := s.position + piece.length
    checkEnd rest position
    set { s with pieces := rest, position }
    return some piece

def takeIf (c : Char) : Parse Bool := do
  if (← peek) = some [c] then
    discard take
    return true
  else return false

def takeMany : Nat → Parse (List Char)
  | 0 => return []
  | count + 1 => do
    let piece := (← take).getD []
    return piece ++ (← takeMany count)

/-- Takes the characters of a class that come next, at most so many. -/
def takeWhile (most : Nat) (member : Char → Bool) : Parse (List Char) := do
  let next := ((← get).pieces.take most).takeWhile fun piece =>
    match piece with
    | [c] => member c
    | _ => false
  takeMany next.length

def takeDigits : Parse (List Char) := do
  takeWhile (← get).pieces.length Char.isDigit

/-- Takes everything up to a character that ends a name, and that character. -/
def takeUntil (terminator : Char) (what : String) : Parse (List Char) := do
  let name ← takeMany ((← get).pieces.takeWhile fun piece => piece != [terminator]).length
  match ← take with
  | none =>
    if name.isEmpty then objectBack s!"missing {what}" 0
    else objectBack s!"missing {terminator}, unterminated name" name.length
  | some _ =>
    if name.isEmpty then objectBack s!"missing {what}" 1
    return name

def takeClosing (start : Nat) : Parse Unit := do
  if !(← takeIf ')') then object "missing ), unterminated subpattern" start

def numberOf (base : Nat) (digits : List Char) : Nat :=
  (Based.continue? base false 0 digits).getD 0

end TypstMarkup.Pattern
