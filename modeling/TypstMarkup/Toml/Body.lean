import TypstMarkup.Fault
import TypstMarkup.Toml.Layout

/-!
Building the items of a table one after the other. A name may come again only for a table: tables
that are nothing but the way to others are merged while they follow one another, and otherwise
stand in several places, which together must still make one table.
-/
namespace TypstMarkup.Toml

/-- The failure to add an item under a name that is taken. -/
def keyTaken (name : String) : Fault :=
  .failed .repeatedKey ("Key \"" ++ name ++ "\" already exists.")

/-- The failure to open a table again that was made by dotted keys. -/
def tableRedefined : Fault :=
  .failed .redefinition "Redefinition of an existing table"

namespace Item

def entries : Item → Body
  | .table _ entries => entries
  | _ => []

def isTable : Item → Bool
  | .table _ _ => true
  | _ => false

end Item

namespace Body

def named (body : Body) (name : String) : List (Slot × Item) :=
  body.filterMap fun entry =>
    match entry.1 with
    | some slot => if slot.key.name == name then some (slot, entry.2) else none
    | none => none

/-- The names of the items, each once, in order. -/
def names (body : Body) : List String :=
  (body.filterMap fun entry => entry.1.map fun slot => slot.key.name).eraseDups

def isScattered (body : Body) (name : String) : Bool :=
  1 < (named body name).length

/-- The entries of all tables under a name, one table after the other. -/
def gathered (body : Body) (name : String) : Body :=
  (named body name).flatMap fun entry => entry.2.entries

def lastTable? (body : Body) : Option String :=
  ((body.filter fun entry => entry.2.isTable).getLast?.bind Prod.fst).map fun slot => slot.key.name

def setLast (body : Body) (name : String) (slot : Slot) (item : Item) : Body :=
  let (after, rest) := body.reverse.span fun entry =>
    !(entry.1.any fun slot => slot.key.name == name)
  rest.tail.reverse ++ (some slot, item) :: after.reverse

/-- The first name that comes again after an item other than a table; `before` holds the entries
before, the last one first. -/
def clash? (before : Body) : Body → Option String
  | [] => none
  | (slot, item) :: rest =>
    let name := slot.map fun slot => slot.key.name
    match before.find? fun entry =>
      name.isSome && entry.1.map (fun slot => slot.key.name) == name with
    | some (_, earlier) =>
      if earlier.isTable then clash? ((slot, item) :: before) rest else name
    | none => clash? ((slot, item) :: before) rest

end Body

/-- Puts blanks into the indent of a table: those that the indent of the table around it has. -/
def indented (outer : List Char) (item : Item) : Item :=
  match item with
  | .table head entries =>
    let blanks := (outer.dropWhile (· != ' ')).takeWhile (· == ' ')
    let (start, rest) := head.margin.indent.span (· != ' ')
    .table { head with margin := { head.margin with indent := start ++ blanks ++ rest } } entries
  | item => item

mutual

/-- Adds an item under a key, within a budget of nested tables; `checks` says whether tables in
several places are compared at once. -/
def add? : Nat → Bool → Slot → Item → Body → Except Fault Body
  | 0, _, slot, item, body => .ok (body ++ [(some slot, item)])
  | budget + 1, checks, slot, item, body => do
    let name := slot.key.name
    let longer := body ++ [(some slot, item)]
    if Body.isScattered body name then checkGathered budget (Body.gathered body name)
    match (Body.named body name).getLast?, item with
    | none, _ => return longer
    | some (oldSlot, .tables elements), .tables more =>
      return Body.setLast body name oldSlot (.tables (elements ++ more))
    | some (oldSlot, .tables elements), .table head _ =>
      if head.inArray then return Body.setLast body name oldSlot (.tables (elements ++ [item]))
      else throw (keyTaken name)
    | some (oldSlot, .table oldHead oldEntries), .table head entries =>
      if head.inArray then
        -- The table before becomes the first one of an array.
        return Body.setLast body name slot (.tables [.table oldHead oldEntries, item])
      else if !oldHead.isOnWay oldEntries then
        if head.isOnWay entries then return longer else throw (keyTaken name)
      else if !head.isOnWay entries then
        if oldSlot.dotted then throw tableRedefined else return longer
      else if slot.dotted || oldSlot.dotted || Body.lastTable? body != some name then
        if checks && Body.isScattered longer name then
          checkMerged budget (Body.gathered longer name)
        return longer
      else
        let merged ← mergeInto budget oldHead.margin.indent entries oldEntries
        return Body.setLast body name oldSlot (.table oldHead merged)
    | _, _ => throw (keyTaken name)

/-- Adds the entries of a table to those of another with an indent. -/
def mergeInto : Nat → List Char → List (Option Slot × Item) → Body → Except Fault Body
  | 0, _, _, body => .ok body
  | _ + 1, _, [], body => .ok body
  | budget + 1, indent, (none, item) :: rest, body =>
    mergeInto budget indent rest (body ++ [(none, item)])
  | budget + 1, indent, (some slot, item) :: rest, body => do
    let name := slot.key.name
    let body ← add? budget true slot item body
    if Body.isScattered body name then checkGathered budget (Body.gathered body name)
    let body := match (Body.named body name).getLast? with
      | some (slot, item) =>
        if indent.contains ' ' && !Body.isScattered body name then
          Body.setLast body name slot (indented indent item)
        else body
      | none => body
    mergeInto budget indent rest body

/-- Checks that entries of tables in several places can be seen as those of one table: a name comes
again only after a table. -/
def checkGathered : Nat → Body → Except Fault Unit
  | 0, _ => .ok ()
  | budget + 1, body =>
    match Body.clash? [] body with
    | some name => .error (keyTaken name)
    | none => (Body.names body).forM fun name =>
      if Body.isScattered body name then checkMerged budget (Body.gathered body name) else .ok ()

/-- Checks that entries of tables in several places could have been written in one. -/
def checkMerged : Nat → Body → Except Fault Unit
  | 0, _ => .ok ()
  | budget + 1, body => do
    let merged ← body.foldlM (fun merged entry =>
      match entry.1 with
      | some slot => add? budget false slot entry.2 merged
      | none => .ok (merged ++ [entry])) []
    (Body.names merged).forM fun name =>
      if Body.isScattered merged name then checkMerged budget (Body.gathered merged name)
      else .ok ()

end

namespace Body

def check (budget : Nat) (body : Body) : Except Fault Unit :=
  (names body).forM fun name =>
    if isScattered body name then checkMerged budget (gathered body name) else .ok ()

/-- The entries for a value under the keys of a path: each key but the last opens a table on the
line. -/
def ofPath (separator : List Char) (value : Item) : List Key → Body
  | [] => []
  | [key] => [(some { key, separator }, value)]
  | key :: rest =>
    [(some { key, separator := [], dotted := true },
      .table { onWay := some true } (ofPath separator value rest))]

def addPath? (budget : Nat) (checks : Bool) (path : List Key) (separator : List Char)
    (value : Item) (body : Body) : Except Fault Body :=
  match ofPath separator value path with
  | (some slot, item) :: _ => add? budget (checks || slot.dotted) slot item body
  | _ => .ok body

/-- Adds an item without a key; blanks join blanks. -/
def addPlain (item : Item) (body : Body) : Body :=
  match item, body.getLast? with
  | .blank text, some (none, .blank before) => body.dropLast ++ [(none, .blank (before ++ text))]
  | item, _ => body ++ [(none, item)]

/-- Looks up a name that was just added. -/
def checkName (body : Body) (budget : Nat) (name : String) : Except Fault Unit :=
  if isScattered body name then checkGathered budget (gathered body name) else .ok ()

end Body

end TypstMarkup.Toml
