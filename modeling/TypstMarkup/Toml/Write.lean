import TypstMarkup.Text.Blank
import TypstMarkup.Toml.Key
import TypstMarkup.Toml.Node

/-!
Writing documents. A table shows its plain values first, one line each, and then the tables and
arrays of tables in it, each table under a header that names its whole path and after one blank
line. A table that holds nothing but tables has no header of its own.
-/
namespace TypstMarkup.Toml

mutual

def writtenNode : Node → List Char
  | .text s => basicString s.toList
  | .integer n => (toString n).toList
  | .float x => x.written true
  | .boolean b => if b then ['t', 'r', 'u', 'e'] else ['f', 'a', 'l', 's', 'e']
  | .moment m => m.written
  | .array items => '[' :: [',', ' '].intercalate (writtenItems items) ++ [']']
  | .table entries | .inline entries =>
    '{' :: [','].intercalate (writtenEntries entries) ++ ['}']

/-- The texts of the items of an array. The entries of a table stand further apart there. -/
def writtenItems : List Node → List (List Char)
  | [] => []
  | .table entries :: rest =>
    ('{' :: [',', ' '].intercalate (writtenEntries entries) ++ ['}']) :: writtenItems rest
  | node :: rest => writtenNode node :: writtenItems rest

def writtenEntries : List (String × Node) → List (List Char)
  | [] => []
  | (key, node) :: rest =>
    (writtenKey key.toList ++ [' ', '=', ' '] ++ writtenNode node) :: writtenEntries rest

end

namespace Node

/-- Whether a node is written on a line of its own, and not under headers. -/
def isPlain (node : Node) : Bool :=
  !node.isTable && !node.isTables

end Node

def assignmentText (key : String) (node : Node) : List Char :=
  writtenKey key.toList ++ [' ', '=', ' '] ++ writtenNode node ++ ['\n']

def plainLines (entries : Table) : List Char :=
  (entries.filter fun entry => entry.2.isPlain).flatMap fun entry =>
    assignmentText entry.1 entry.2

/-- The line that opens a table, or with `inArray` a table of an array. -/
def headerText (path : List String) (inArray : Bool) : List Char :=
  let brackets (bracket : Char) := List.replicate (if inArray then 2 else 1) bracket
  brackets '[' ++ pathText (path.map Key.ofName) ++ brackets ']' ++ ['\n']

/-- Whether a table has a header: it is empty, or holds a plain value. -/
def hasHeader (entries : Table) : Bool :=
  entries.isEmpty || entries.any fun entry => entry.2.isPlain

/-- Whether a blank line stands before the first table among the entries of a table: there are plain
values, and where an array comes first, also before it. -/
def startsApart (entries : Table) : Bool :=
  let (before, rest) := entries.span fun entry => entry.2.isPlain
  match rest with
  | (_, .table _) :: rest => !before.isEmpty || rest.any fun entry => entry.2.isPlain
  | _ => !before.isEmpty

/-- A blank line, if something is to stand apart from what comes before. -/
def gapText (apart : Bool) : List Char :=
  if apart then ['\n'] else []

mutual

/-- The tables and arrays of tables among the entries of the table at a path; `apart` says whether a
blank line stands before the first of them. -/
def tablesText (path : List String) (apart : Bool) : List (String × Node) → List Char
  | [] => []
  | (key, .table entries) :: rest =>
    gapText apart ++ (if hasHeader entries then headerText (path ++ [key]) false else []) ++
      plainLines entries ++ tablesText (path ++ [key]) (startsApart entries) entries ++
      tablesText path true rest
  | (key, .array items) :: rest =>
    if (Node.array items).isTables then
      arrayText (path ++ [key]) apart items ++ tablesText path true rest
    else tablesText path apart rest
  | _ :: rest => tablesText path apart rest

/-- The tables of an array at a path. A blank line stands after every table but an empty one. -/
def arrayText (path : List String) (apart : Bool) : List Node → List Char
  | .table entries :: rest =>
    gapText apart ++ headerText path true ++ plainLines entries ++
      tablesText path (startsApart entries) entries ++ arrayText path (!entries.isEmpty) rest
  | _ => []

end

def commentLine (line : List Char) : List Char :=
  if line.isEmpty then ['#', '\n'] else '#' :: ' ' :: line ++ ['\n']

/-- The comment above a document, and a blank line after it. -/
def commentText (text : List Char) : List Char :=
  if text.isEmpty then [] else (Text.lines text).flatMap commentLine ++ ['\n']

def documentText (comment : List Char) (entries : Table) : List Char :=
  commentText comment ++ plainLines entries ++ tablesText [] (startsApart entries) entries

end TypstMarkup.Toml
