import TypstMarkup.Text.Alphanumeric
import TypstMarkup.Toml.Access

/-!
Logical lines. Before anything else is read, a document is brought into lines that stand for
themselves: comments become blanks, and so do the line feeds within brackets. On the way every key
is checked to consist of characters that may stand in it, and every string on one line to end
there.

Looking back from a character goes round from the start of the text to its end.
-/
namespace TypstMarkup.Toml

/-- Where a character stands relative to the key of its line. -/
inductive KeyPlace where
  | outside | within | behind
deriving DecidableEq

/-- The header that is open: none, that of a table, or that of a table in an array. -/
inductive Heading where
  | none | table | element
deriving DecidableEq

/-- A document of which some characters have been read. -/
structure Outline where
  text : Array Char
  /-- How many brackets are open in values. -/
  depth : Int := 0
  /-- The quote that ends the open string. -/
  quote : Option Char := none
  /-- Whether a string over several lines is open. -/
  block : Bool := false
  key : KeyPlace := .outside
  /-- Whether the open key has a point in it. -/
  dotted : Bool := false
  /-- Whether nothing but blanks has been read of the line. -/
  fresh : Bool := true
  heading : Heading := .none

namespace Outline

/-- The character some places before a position. -/
def back? (o : Outline) (position distance : Nat) : Option Char :=
  if distance ≤ position then o.text[position - distance]?
  else if distance ≤ position + o.text.size then
    o.text[position + o.text.size - distance]?
  else none

/-- Whether an odd number of backslashes stands right before some distance from a position; the run
of backslashes is followed for so many characters at most. -/
def escapedBehind (o : Outline) (position : Nat) : Nat → Nat → Bool
  | 0, _ => false
  | most + 1, distance =>
    if o.back? position distance == some '\\' then !escapedBehind o position most (distance + 1)
    else false

/-- How many of the two characters before a position are a quote. -/
def quotesBehind (o : Outline) (position : Nat) (quote : Char) : Nat :=
  if o.back? position 1 == some quote then
    if o.back? position 2 == some quote then 2 else 1
  else 0

/-- Reads on in a key after a blank or a point: another part follows unless a further blank or point
does. -/
def afterGap (o : Outline) (position : Nat) : Except Refusal Outline :=
  match o.text[position + 1]? with
  | some next => .ok (if Text.isBlank next || next == '.' then o else { o with key := .within })
  | none => .error (.failure (.outOfRange "list"))

/-- Reads a character behind a key: nothing but blanks and the equals sign may follow. -/
def endKey (o : Outline) (c : Char) : Except Refusal Outline :=
  if c == '=' then .ok { o with key := .outside, dotted := false } else .error .malformed

def readKey (o : Outline) (position : Nat) (c : Char) : Except Refusal Outline :=
  if c == '\n' then .error .malformed
  else if o.quote.isSome then
    if o.quote == some c && !o.escapedBehind position position 1 then
      .ok { o with key := .behind, quote := none }
    else .ok o
  else if o.key == .within then
    if Text.isBlank c then .ok { o with key := .behind }
    else if c == '.' then .ok { o with dotted := true }
    else if Text.isAlphanumeric c || c == '_' || c == '-' then .ok o
    else if o.dotted && o.back? position 1 == some '.' && (c == '"' || c == '\'') then
      .ok { o with quote := some c }
    else o.endKey c
  else if Text.isBlank c then if o.dotted then o.afterGap position else .ok o
  else if c == '.' then { o with dotted := true }.afterGap position
  else o.endKey c

def toggle (o : Outline) (quote : Char) : Outline :=
  { o with quote := if o.quote.isSome then none else some quote }

def toggleBlock (o : Outline) (quote : Char) : Outline :=
  { o with block := !o.block, quote := if o.block then none else some quote }

/-- Reads a quote: the third in a row opens or closes a string over several lines. A double quote
behind an odd number of backslashes does nothing, unless it is the second in a row. -/
def readQuote (o : Outline) (position : Nat) (c : Char) : Outline :=
  if c == '\'' && o.quote != some '"' then
    if o.quotesBehind position c == 2 then o.toggleBlock c else o.toggle c
  else if c == '"' && o.quote != some '\'' then
    match o.quotesBehind position c with
    | 0 => if o.escapedBehind position (2 * o.text.size) 1 then o else o.toggle c
    | 2 => if o.escapedBehind position (2 * o.text.size) 3 then o else o.toggleBlock c
    | _ => o.toggle c
  else o

/-- Whether a character is part of neither a string nor a header. -/
def isPlain (o : Outline) : Bool :=
  o.quote.isNone && o.heading == .none

/-- Makes the characters from a position up to the end of the line blank, within a budget of
characters; the second component says whether the line ends. -/
def blankLine : Nat → Nat → Array Char → Array Char × Bool
  | 0, _, text => (text, false)
  | budget + 1, position, text =>
    match text[position]? with
    | some '\n' => (text, true)
    | some _ => blankLine budget (position + 1) (text.setIfInBounds position ' ')
    | none => (text, false)

/-- Reads a bracket. The first one of a line opens a header. -/
def readBracket (o : Outline) (position : Nat) (c : Char) : Outline :=
  if c == '[' && o.isPlain then
    if o.fresh then
      { o with heading := if o.text[position + 1]? == some '[' then .element else .table }
    else { o with depth := o.depth + 1 }
  else if c == ']' && o.quote.isNone then
    match o.heading with
    | .table => { o with heading := .none }
    | .element => if o.back? position 1 == some ']' then { o with heading := .none } else o
    | .none => { o with depth := o.depth - 1 }
  else o

/-- Reads a line feed. At the start of a string over several lines it becomes part of the opening
quotes; within brackets it becomes a blank. -/
def readLineFeed (o : Outline) (position : Nat) : Except Refusal Outline :=
  if o.quote.isSome || o.block then
    if !o.block then .error .malformed
    else
      match o.back? position 1 with
      | some quote =>
        if (quote == '"' || quote == '\'') && o.back? position 2 == some quote then
          let text := o.text.setIfInBounds position quote
          if o.back? position 3 == some quote then
            let first := if 3 ≤ position then position - 3 else position + o.text.size - 3
            .ok { o with text := text.setIfInBounds first ' ' }
          else .ok { o with text := text }
        else .ok o
      | none => .ok o
  else if o.depth != 0 then .ok { o with text := o.text.setIfInBounds position ' ' }
  else .ok { o with fresh := true }

/-- Reads the first character of a line that is not blank: outside a header it opens a key. -/
def readFirst (o : Outline) (position : Nat) : Except Refusal Outline :=
  match o.text[position]? with
  | some c =>
    if !o.fresh || c == ' ' || c == '\t' then .ok o
    else if o.heading != .none then .ok { o with fresh := false }
    else if c == '=' then .error .malformed
    else .ok { o with fresh := false, key := .within }
  | none => .ok o

/-- Reads the character at a position. The second component says whether to read on. -/
def step (o : Outline) (position : Nat) (c : Char) : Except Refusal (Outline × Bool) :=
  if o.key != .outside then (o.readKey position c).map (·, true)
  else
    let o := o.readQuote position c
    let (text, lineEnds) :=
      if c == '#' && o.isPlain then blankLine (o.text.size + 1) position o.text else (o.text, true)
    let o := { o with text }
    if !lineEnds then .ok (o, false)
    else
      let o := o.readBracket position c
      (if c == '\n' then o.readLineFeed position else o.readFirst position).map (·, true)

/-- Reads so many characters up to the end of the text. -/
def run : Nat → Outline → Except Refusal Outline
  | 0, o => .ok o
  | left + 1, o =>
    let position := o.text.size - (left + 1)
    match o.text[position]? with
    | some c => do
      let (o, goesOn) ← o.step position c
      if goesOn then run left o else return o
    | none => .ok o

end Outline

/-- The logical lines of a document, unless a key or a string does not end. -/
def logicalLines? (source : List Char) : Except Refusal (List (List Char)) := do
  let o ← Outline.run source.length { text := source.toArray }
  if o.key != .outside || o.quote.isSome then throw .malformed
  return o.text.toList.splitOn '\n'

end TypstMarkup.Toml
