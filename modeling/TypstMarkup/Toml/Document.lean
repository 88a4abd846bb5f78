import TypstMarkup.Toml.Logical
import TypstMarkup.Toml.Value

/-!
What a document says. A header opens the table at its path, or a new table at the end of the array
there, and every assignment after it goes there. A table that was opened on the way to another may
be opened once by a header of its own.
-/
namespace TypstMarkup.Toml

/-- A document that is read line by line. -/
structure Reading where
  root : Node := .table []
  /-- The way to the node that assignments go to. -/
  place : List Step := []
  /-- The names of tables that were opened on the way to others. -/
  implied : List String := []
  /-- The value that goes on in the next line. -/
  pending : Option Pending := none

/-! ### Headers -/

/-- Whether a name may stand in a header without quotes. -/
def isBareName (name : List Char) : Bool :=
  !name.isEmpty && name.all fun c => c.isAlphanum || c == '_' || c == '-'

/-- Whether a name in quotes is whole: it ends with the quote it starts with. -/
def isWholeName (name : List Char) : Bool :=
  name.length != 1 && name.head? == name.getLast?

/-- The names in the path of a header that was cut at its points; `opened` holds the parts so far
of a name in quotes. -/
def headerNames? : Option (List Char) → List (List Char) → Option (List String)
  | none, [] => some []
  | some _, [] => none
  | opened, part :: rest => do
    let written := match opened with
      | some before => before ++ '.' :: part
      | none => Text.strip part
    let name := Text.strip written
    let isQuoted := name.head? == some '"' || name.head? == some '\''
    if isQuoted && !isWholeName name then headerNames? (some written) rest
    else if isQuoted || isBareName name then
      let names ← headerNames? none rest
      return String.ofList (if isQuoted then Text.inner 1 name else name) :: names
    else none

/-- A header: the names in its path, and whether it opens a table in an array. -/
def header? (line : List Char) : Option (List String × Bool) := do
  let (inArray, body, closing) ← match line with
    | ['['] => none
    | '[' :: '[' :: rest => some (true, rest, [']', ']'])
    | _ :: rest => some (false, rest, [']'])
    | [] => none
  let (path, after) ← Text.cutAt? closing (firstOutside closing false (quoteParts body)) body
  guard ((Text.strip after).isEmpty)
  return (← headerNames? none (path.splitOn '.'), inArray)

/-- The node that a header puts where there is none. -/
def freshNode (inArray : Bool) : Node :=
  if inArray then .array [.table []] else .table []

/-- A node on the way of a header, as it stands when the header is done, the way on from there, and
the names of the tables opened on the way to others. -/
structure Opened where
  node : Node
  way : List Step
  implied : List String

/-- What the header of a path finds or puts under a name; `child` is the node that is there. -/
def openPresent? (inArray : Bool) (owner child : Node) (name : String) (isLast : Bool)
    (implied : List String) : Except Refusal (Node × List String) :=
  if !isLast then .ok (child, implied)
  else if implied.contains name then
    if inArray then .error .malformed else .ok (child, implied.erase name)
  else if inArray then do return (← orFail child.appendTable?, implied)
  else if owner.toValue.overlong then .error (.failure .tooManyDigits)
  else .error .malformed

/-- Goes on from the node that a name of a header leads to: in the path of an array, from its last
table. -/
def goOn? (inArray : Bool) (name : String) (child : Node)
    (next : Node → Except Refusal Opened) : Except Refusal Opened :=
  if inArray && child.entries?.isNone then do
    let opened ← next (← orFail child.last?)
    return ⟨child.withLast opened.node, .entry name :: .last :: opened.way, opened.implied⟩
  else do
    let opened ← next child
    return ⟨opened.node, .entry name :: opened.way, opened.implied⟩

/-- Opens the table at a path. Where the path leads into an array, it goes on in the last item. -/
def openTable? (inArray : Bool) :
    List String → List String → Node → Except Refusal Opened
  | [], implied, node => .ok ⟨node, [], implied⟩
  | name :: rest, implied, node => do
    if name.isEmpty then throw .malformed
    match node.entry? name with
    | .ok (some child) =>
      let (child, implied) ← openPresent? inArray node child name rest.isEmpty implied
      let opened ← goOn? inArray name child (openTable? inArray rest implied)
      return { opened with node := ← orFail (node.setEntry? name opened.node) }
    | .ok none =>
      let implied := if rest.isEmpty then implied else implied ++ [name]
      let opened ← goOn? inArray name (freshNode (inArray && rest.isEmpty))
        (openTable? inArray rest implied)
      return { opened with node := ← orFail (node.setEntry? name opened.node) }
    | .error _ =>
      -- The node is an array of tables, whose last one is meant.
      let item ← orFail node.last?
      let item ←
        if ← orFail (item.mentions? name) then pure item
        else orFail (item.setEntry? name (freshNode (inArray && rest.isEmpty)))
      match ← orFail (item.entry? name) with
      | some child =>
        let opened ← goOn? inArray name child (openTable? inArray rest implied)
        let item ← orFail (item.setEntry? name opened.node)
        return { opened with node := node.withLast item, way := .last :: opened.way }
      | none => throw .malformed

/-! ### Lines -/

/-- Whether a line closes the value that goes on, of which everything up to the line is given. -/
def closes? (value line : List Char) : Except Refusal Bool :=
  match value.head? with
  | some '[' =>
    match line.getLast? with
    | some c => .ok (c == ']')
    | none => .error (.failure (.outOfRange "string"))
  | quote => .ok (2 < line.length && (line.reverse.take 3).all fun c => some c == quote)

namespace Reading

def continue? (r : Reading) (p : Pending) (line : List Char) : Except Refusal Reading := do
  let value := p.text ++ line
  if ← closes? value line then
    let child ← Node.ofText? true value
    let (root, pending) ← r.root.changeAt?
      (fun node => do return (← orFail (node.setEntry? p.key child), none)) r.place
    return { r with root, pending }
  else if Text.endsInEscape value then
    return { r with pending := some ⟨p.key, value.dropLast, true⟩ }
  else return { r with pending := some ⟨p.key, value ++ ['\n'], false⟩ }

def assign? (r : Reading) (line : List Char) : Except Refusal Reading := do
  if line.head? == some '{' then
    if line.getLast? != some '}' then throw .malformed
    let entries ← entryTexts? line
    let (root, pending) ← r.root.changeAt?
      (fun node => do return (← assignAll? Node.ofText? entries node, none)) r.place
    return { r with root, pending }
  else if line.contains '=' then
    let a ← Assignment.ofLine? line
    let (root, pending) ← r.root.changeAt? (a.perform? Node.ofText? a.path) r.place
    return { r with root, pending }
  else return r

/-- Takes in a line. Between the lines of a value blanks count. -/
def step? (r : Reading) (line : List Char) : Except Refusal Reading :=
  match r.pending with
  | some p =>
    let line := if p.joined || !p.text.contains '\n' then Text.strip line else line
    if line.isEmpty && p.joined then .ok r else r.continue? p line
  | none =>
    let line := Text.strip line
    match line with
    | [] => .ok r
    | '[' :: _ =>
      match header? line with
      | some (names, inArray) => do
        let opened ← openTable? inArray names r.implied r.root
        return { r with root := opened.node, place := opened.way, implied := opened.implied }
      | none => .error .malformed
    | _ => r.assign? line

end Reading

def read? (source : List Char) : Except Refusal Table := do
  let r ← (← logicalLines? source).foldlM Reading.step? {}
  return r.root.entries?.getD []

end TypstMarkup.Toml
