import TypstMarkup.Toml.Tree

/-!
Moving a document under a section. Comments and blanks above the first key stay on top, then the
section follows with the values outside tables and the tables, whose headers get the path of the
section in front. What stands within a table keeps its text; a table that stands in several places
is put together in the first of them.
-/
namespace TypstMarkup.Toml

/-- The names in a dotted path; empty ones do not count. -/
def sectionPath (text : List Char) : List String :=
  ((text.splitOn '.').filter fun name => !name.isEmpty).map String.ofList

mutual

/-- An item whose tables show the paths that lead to them. Tables in several places keep theirs. -/
def Item.repathed : Item → Item
  | .table head entries =>
    .table { head with shownPath := none } (repathedEntries (Body.isScattered entries) entries)
  | .tables elements => .tables (repathedElements elements)
  | item => item

/-- The entries of a table, repathed except for some names. -/
def repathedEntries (except : String → Bool) :
    List (Option Slot × Item) → List (Option Slot × Item)
  | [] => []
  | (slot, item) :: rest =>
    (slot, if slot.any fun s => except s.key.name then item else item.repathed) ::
      repathedEntries except rest

def repathedElements : List Item → List Item
  | [] => []
  | item :: rest => item.repathed :: repathedElements rest

end

/-! ### Distance -/

/-- Whether items end in blanks, their own or those of the last table. -/
def Body.endsInBlank (body : Body) : Bool :=
  match body.getLast? with
  | some (_, .blank _) => true
  | some (_, .table _ entries) => entries.getLast?.any fun entry => entry.2.isBlank
  | _ => false

/-- An item on a line of its own: a line feed comes first if its indent holds none. -/
def Item.onNewLine (item : Item) : Item :=
  let margin := item.margin
  if margin.indent.contains '\n' then item
  else item.withMargin { margin with indent := '\n' :: margin.indent }

/-- A table after other items: a line feed sets it apart unless a blank does. -/
def Item.apart (afterBlank : Bool) : Item → Item
  | .table head entries =>
    if afterBlank || !head.margin.indent.isEmpty then .table head entries
    else .table { head with margin := { head.margin with indent := ['\n'] } } entries
  | .tables (.table head entries :: rest) =>
    if afterBlank || head.margin.indent.contains '\n' then .tables (.table head entries :: rest)
    else
      let margin := { head.margin with indent := ['\n'] }
      .tables (.table { head with margin } entries :: rest)
  | item => item

/-- Items of which the last value ends its line. -/
def Body.endLast (body : Body) : Body :=
  match body.getLast? with
  | some (slot, .value sort text margin) =>
    if margin.ending.contains '\n' then body
    else body.dropLast ++
      [(slot, .value sort text { margin with ending := margin.ending ++ ['\n'] })]
  | _ => body

/-! ### Moving -/

/-- Puts a table behind other items, set apart from them. -/
def Body.placeTable (body : Body) (name : String) (table : Item) : Body :=
  body ++ [(some (.ofName name), if body.isEmpty then table else table.apart body.endsInBlank)]

/-- Puts an item behind the others: a table at the end, any other item before the first table. An
array of tables that comes first keeps the paths it shows, and a truth value loses what stood around
it. -/
def Body.place (body : Body) (name : String) (item : Item) : Body :=
  match item with
  | .table _ _ => body.placeTable name item.repathed
  | .tables _ => body.placeTable name (if body.isEmpty then item else item.repathed)
  | item =>
    let value := match item with
      | .value (.truth b) text _ => .value (.truth b) text {}
      | item => item
    let (values, tables) := body.span fun entry => !entry.2.isTabular
    Body.endLast values ++ (some (.ofName name), value) :: match tables with
      | (slot, first) :: rest => (slot, first.onNewLine) :: rest
      | [] => []

/-- Whether what stands under a name is a table, an inline one or one in several places included. -/
def Body.isTableLike (body : Body) (name : String) : Bool :=
  match body.named name with
  | [(_, .table _ _)] | [(_, .value .inlineTable _ _)] => true
  | items => 1 < items.length

/-- Moves items into a table, within a budget of nested tables. What stands in several places is put
together first, tables behind other items. -/
def Body.moveInto? (names : List String) (source : Body) : Nat → Body → Except Fault Body
  | 0, target => .ok target
  | budget + 1, target =>
    names.foldlM (fun target name =>
      match source.named name with
      | [(_, item)] => return target.place name item
      | _ => do
        let gathered := source.gathered name
        checkGathered budget gathered
        gathered.names.forM fun inner => gathered.checkName budget inner
        let (tables, values) := gathered.names.partition gathered.isTableLike
        let entries ← moveInto? (values ++ tables) gathered budget []
        return target.place name (.table {} entries)) target

/-- The table of a section that holds given items. A table on the way shows no header unless it has
the name of the last one. -/
def sectionTable (last : String) (items : Body) : List String → Item
  | [] => .table { onWay := some false } items
  | name :: rest =>
    .table { onWay := some (name != last) } (match rest with
      | [] => items
      | next :: _ => [(some (.ofName next), sectionTable last items rest)])

/-- The items of a document moved under a section, within a budget of nested tables. -/
def nested? (first : String) (rest : List String) (room : Nat) (body : Body) :
    Except Fault Body := do
  let top := body.takeWhile fun entry => entry.1.isNone
  let items ← body.moveInto? body.names room []
  let path := first :: rest
  return Body.placeTable top first (sectionTable (path.getLastD first) items path)

def nestedText (source place : List Char) : Except Fault (List Char) :=
  match sectionPath place with
  | [] => .error (.failed .valueError "section_keys must contain at least one non-empty component")
  | first :: rest => do
    let body ← Body.ofText? source
    return Body.text [] (← nested? first rest (4 * (source.length + 1)) body)

end TypstMarkup.Toml
