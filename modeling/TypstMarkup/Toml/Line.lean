import TypstMarkup.Toml.Element

/-!
Documents as lines. Every line keeps the text it was read from. A line that cannot be read is the
last one.
-/
namespace TypstMarkup.Toml

structure Opening where
  path : List Key
  inArray : Bool
  margin : Margin

def Opening.names (opening : Opening) : List String :=
  opening.path.map Key.name

inductive Line where
  | blank (text : List Char)
  | comment (text : List Char)
  | entry (path : List Key) (separator : List Char) (value : Item)
  | header (opening : Opening)
  /-- A header that is wrong after its path. -/
  | brokenHeader (path : List String) (inArray : Bool)
  | refused (cause : Fault)

def unreadable : Fault :=
  .failed .runtime "Error parsing TOML document"

def Trouble.cause : Trouble → Fault
  | .fault cause => cause
  | _ => unreadable

/-- Reads the end of a line: blanks, perhaps a comment, and the line end unless the text ends.
Blanks without a comment belong to the line end. -/
def lineEnd? (source : List Char) : Except Trouble (Margin × List Char) := do
  let (space, rest) := source.span fun c => isSpacing c || c == '\r'
  match rest with
  | [] => return ({ ending := space }, [])
  | '\n' :: rest => return ({ ending := space ++ ['\n'] }, rest)
  | '#' :: _ =>
    let (comment, rest) ← comment? rest
    let (ending, rest) := match rest with
      | '\r' :: '\n' :: rest => (['\r', '\n'], rest)
      | '\r' :: rest => (['\r'], rest)
      | '\n' :: rest => (['\n'], rest)
      | rest => ([], rest)
    return ({ gap := space, comment, ending }, rest)
  | _ => throw (.unexpected rest)

def entry? (source : List Char) : Except Trouble (Line × List Char) := do
  let (indent, rest) := source.span isSpacing
  let (path, rest) ← keys? (rest.length + 1) rest
  let (separator, rest) ← separator? rest
  let (value, rest) ← element? (rest.length + 1) rest
  let (margin, rest) ← lineEnd? rest
  let gap := if value.margin.gap.isEmpty then margin.gap else value.margin.gap
  return (.entry path separator (value.withMargin { margin with indent, gap }), rest)

/-- Reads a line that opens a table, `rest` what comes after its first bracket. Of two closing
brackets only the first is looked at. -/
def opening? (indent rest : List Char) : Except Trouble (Line × List Char) := do
  let (inArray, rest) := match rest with
    | '[' :: rest => (true, rest)
    | rest => (false, rest)
  let (path, rest) ← keys? (rest.length + 1) rest
  let broken := (Line.brokenHeader (path.map Key.name) inArray, [])
  match rest with
  | ']' :: rest =>
    match lineEnd? (if inArray then rest.drop 1 else rest) with
    | .ok (margin, rest) =>
      return (.header { path, inArray, margin := { margin with indent } }, rest)
    | .error _ => return broken
  | _ => return broken

def line? (source : List Char) : Except Trouble (Line × List Char) := do
  let (indent, rest) := source.span fun c => isSpacing c || c == '\r'
  match rest with
  | [] => return (.blank indent, [])
  | '\n' :: rest => return (.blank (indent ++ ['\n']), rest)
  | '#' :: _ =>
    let (margin, rest) ← lineEnd? rest
    return (.comment (indent ++ margin.comment ++ margin.ending), rest)
  | '[' :: rest => opening? indent rest
  | _ => entry? source

/-- The lines of a document. Every line takes up some text, so the reading ends. -/
def lines (source : List Char) : List Line :=
  if source.isEmpty then []
  else
    match line? source with
    | .ok (line, rest) =>
      if _h : rest.length < source.length then line :: lines rest else [line]
    | .error trouble => [.refused trouble.cause]
termination_by source.length

end TypstMarkup.Toml
