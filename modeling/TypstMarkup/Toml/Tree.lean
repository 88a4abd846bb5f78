import TypstMarkup.Toml.Line

/-!
The items of a document, put together from its lines. A table takes the lines up to the next header,
and then the tables whose paths continue its own. Headers with the same path in double brackets make
up one array.
-/
namespace TypstMarkup.Toml

def Line.headerPath? : Line → Option (List String × Bool)
  | .header opening => some (opening.names, opening.inArray)
  | .brokenHeader path inArray => some (path, inArray)
  | _ => none

/-- Adds the lines before the next header to the items of a document or, if `inTable` holds, of a
table; `room` bounds the nesting of tables. -/
def fill? (room : Nat) (inTable : Bool) (body : Body) : List Line → Except Fault (Body × List Line)
  | .blank text :: rest => fill? room inTable (Body.addPlain (.blank text) body) rest
  | .comment text :: rest => fill? room inTable (Body.addPlain (.comment text) body) rest
  | .entry path separator value :: rest =>
    match Body.addPath? room (!inTable) path separator value body with
    | .error cause => .error (if inTable then cause else unreadable)
    | .ok body => do
      if inTable then body.checkName room ((path.head?.map Key.name).getD "")
      fill? room inTable body rest
  | .refused cause :: _ => .error cause
  | rest => .ok (body, rest)

/-- The tables on the way to a table, each below the one before. -/
def wayTo (margin : Margin) (table : Item) : List Key → Item
  | [] => table
  | key :: rest =>
    .table { margin, onWay := some true } [(some { key }, wayTo margin table rest)]

/-- The item of a header under the first of the keys that lead to its table. -/
def placed (opening : Opening) (arrays : List (List String)) (keys : List Key) (table : Item) :
    Item :=
  match keys with
  | first :: next :: rest =>
    let inner := if opening.inArray then .tables [table] else table
    .table {
      margin := { opening.margin with indent := [] }
      onWay := some true
      inArray := opening.inArray && arrays.contains [first.name]
    } [(some { key := next }, wayTo opening.margin inner rest)]
  | _ => table

mutual

/-- Reads the table that a header opens, within a budget of lines: its key below the table at a
path, the table, and the lines after it; `arrays` holds the paths of the arrays that are open. -/
def section? (room : Nat) :
    Nat → List String → List (List String) → List Line → Except Fault (Key × Item × List Line)
  | 0, _, _, _ => .error unreadable
  | budget + 1, outer, arrays, lines =>
    match lines with
    | .header opening :: rest => do
      let path := opening.names
      let (body, rest) ← fill? room true [] rest
      let (body, rest) ← children? room budget path arrays body rest
      Body.check room body
      let table := Item.table {
        margin := opening.margin
        onWay := some false
        shownPath := some (pathText opening.path)
        inArray := opening.inArray
      } body
      let keys := opening.path.drop outer.length
      let key := keys.headD (.ofName "")
      if keys.length ≤ 1 && opening.inArray && arrays.head? != some path then
        let (elements, rest) ← elements? room budget path (path :: arrays) rest
        return (key, .tables (table :: elements), rest)
      else return (key, placed opening arrays keys table, rest)
    | _ => .error unreadable

def children? (room : Nat) :
    Nat → List String → List (List String) → Body → List Line → Except Fault (Body × List Line)
  | 0, _, _, _, _ => .error unreadable
  | budget + 1, path, arrays, body, lines =>
    let continues := match lines.head?.bind Line.headerPath? with
      | some (next, _) => path.isPrefixOf next && path != next
      | none => false
    if continues then do
      let (key, item, rest) ← section? room budget path arrays lines
      let body ← add? room false { key } item body
      body.checkName room key.name
      children? room budget path arrays body rest
    else .ok (body, lines)

def elements? (room : Nat) :
    Nat → List String → List (List String) → List Line → Except Fault (List Item × List Line)
  | 0, _, _, _ => .error unreadable
  | budget + 1, path, arrays, lines =>
    if lines.head?.bind Line.headerPath? == some (path, true) then do
      let (_, table, rest) ← section? room budget path arrays lines
      let (tables, rest) ← elements? room budget path arrays rest
      return (table :: tables, rest)
    else .ok ([], lines)

end

def tables? (room : Nat) : Nat → Body → List Line → Except Fault Body
  | 0, _, _ => .error unreadable
  | _ + 1, body, [] => .ok body
  | budget + 1, body, line :: lines => do
    let (key, item, rest) ← section? room budget [] [] (line :: lines)
    match add? room true { key } item body with
    | .ok body => tables? room budget body rest
    | .error _ => throw unreadable

def Body.ofText? (source : List Char) : Except Fault Body := do
  let room := 4 * (source.length + 1)
  let (body, rest) ← fill? room false [] (lines source)
  tables? room (2 * rest.length + 2) body rest

end TypstMarkup.Toml
