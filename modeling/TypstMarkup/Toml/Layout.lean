import TypstMarkup.Toml.Key

/-!
Documents with their layout. Every item of a document keeps the text it was read from: the blanks in
front of it, its value, the comment behind it and the end of its line. Put together again, the items
give a document in which only what was changed looks different.
-/
namespace TypstMarkup.Toml

structure Margin where
  indent : List Char := []
  /-- What stands before the comment. -/
  gap : List Char := []
  comment : List Char := []
  /-- What ends the line. -/
  ending : List Char := ['\n']

/-- What a value is, as far as it matters when the value moves. -/
inductive ValueSort where
  | plain
  | truth (b : Bool)
  | inlineTable

/-- A key as it stands in a table. -/
structure Slot where
  key : Key
  separator : List Char := [' ', '=', ' ']
  /-- Whether the keys of a table follow on the same line. -/
  dotted : Bool := false

def Slot.ofName (name : String) : Slot :=
  { key := .ofName name }

structure Head where
  margin : Margin := {}
  /-- Whether the table is nothing but the way to others; if that is open, its items decide. -/
  onWay : Option Bool := none
  /-- The path that its header shows, if it is not the path to the table. -/
  shownPath : Option (List Char) := none
  /-- Whether the table is one of an array. -/
  inArray : Bool := false

inductive Item where
  | blank (text : List Char)
  | comment (text : List Char)
  | value (sort : ValueSort) (text : List Char) (margin : Margin)
  | table (head : Head) (entries : List (Option Slot × Item))
  | tables (elements : List Item)
deriving Inhabited

/-- The items of a table or a document; blanks and comments have no key. -/
abbrev Body := List (Option Slot × Item)

namespace Item

def isTabular : Item → Bool
  | .table _ _ | .tables _ => true
  | _ => false

def isBlank : Item → Bool
  | .blank _ => true
  | _ => false

/-- What stands around an item. An array of tables has nothing around itself. -/
def margin : Item → Margin
  | .value _ _ margin => margin
  | .table head _ => head.margin
  | _ => {}

def valueText : Item → List Char
  | .value _ text _ => text
  | _ => []

def withMargin (item : Item) (margin : Margin) : Item :=
  match item with
  | .value sort text _ => .value sort text margin
  | .table head entries => .table { head with margin } entries
  | item => item

end Item

/-- Whether a table is nothing but the way to others. -/
def Head.isOnWay (head : Head) (entries : Body) : Bool :=
  head.onWay.getD (entries.any (fun entry => entry.1.isSome) &&
    entries.all fun entry =>
      match entry.1 with
      | some slot => entry.2.isTabular && !slot.dotted
      | none => true)

namespace Item

/-- Whether an item is a table that is nothing but the way to others. -/
def isOnWay : Item → Bool
  | .table head entries => head.isOnWay entries
  | _ => false

end Item

/-! ### Text -/

def below (path : Option (List Char)) (written : List Char) : List Char :=
  match path with
  | some path => path ++ '.' :: written
  | none => written

def headerLine (margin : Margin) (inArray : Bool) (path : List Char) : List Char :=
  margin.indent ++ (if inArray then '[' :: '[' :: path ++ [']', ']'] else '[' :: path ++ [']']) ++
    margin.gap ++ margin.comment ++ margin.ending

/-- The header of a table, if it shows one: a table on the way to others does so for its values and
comments. A table without a header may still keep its distance from what comes before. -/
def tableHeader (head : Head) (dotted : Bool) (path : List Char) (entries : Body) : List Char :=
  if !head.isOnWay entries ||
      (entries.any fun entry => !entry.2.isTabular && !entry.2.isBlank) && !dotted then
    headerLine head.margin head.inArray path ++
      if head.margin.ending.contains '\n' || entries.all fun entry => entry.1.isNone then []
      else ['\n']
  else if head.margin.indent == ['\n'] then ['\n'] else []

/-- The path below which an entry of the table at a path shows its own: a value shows the path of
the table only on one line with it, and a table on one line with its keys starts a path anew. -/
def pathFor (dotted : Bool) (path : List Char) (slot : Slot) (item : Item) : Option (List Char) :=
  match item with
  | .tables _ => some path
  | .table head entries =>
    if head.isOnWay entries && slot.dotted && !dotted then none else some path
  | _ => if dotted then some path else none

mutual

def Item.text (path : Option (List Char)) (slot : Slot) : Item → List Char
  | .blank text | .comment text => text
  | .value _ text margin =>
    margin.indent ++ below path slot.key.written ++ slot.separator ++ text ++ margin.gap ++
      margin.comment ++ margin.ending
  | .table head entries =>
    let path := head.shownPath.getD (below path slot.key.written)
    tableHeader head slot.dotted path entries ++ entriesText slot.dotted path entries
  | .tables elements => elementsText (below path slot.key.written) elements

/-- The text of the entries of the table at a path; `dotted` says whether they share a line with its
key. -/
def entriesText (dotted : Bool) (path : List Char) : List (Option Slot × Item) → List Char
  | [] => []
  | (none, .blank text) :: rest | (none, .comment text) :: rest =>
    text ++ entriesText dotted path rest
  | (none, _) :: rest => entriesText dotted path rest
  | (some slot, item) :: rest =>
    item.text (pathFor dotted path slot item) slot ++ entriesText dotted path rest

def elementsText (path : List Char) : List Item → List Char
  | [] => []
  | .table head entries :: rest =>
    headerLine head.margin true path ++ entriesText false path entries ++ elementsText path rest
  | _ :: rest => elementsText path rest

end

def Item.plainText : Item → List Char
  | .blank text | .comment text => text
  | _ => []

/-- The text of a document. A table starts on a line of its own. -/
def Body.text : List Char → Body → List Char
  | before, [] => before
  | before, (none, item) :: rest => Body.text (before ++ item.plainText) rest
  | before, (some slot, item) :: rest =>
    let written := before.reverse.dropWhile (· == ' ')
    let needsEnd := item.isTabular && !(written.isEmpty || written.head? == some '\n') &&
      !item.margin.indent.contains '\n'
    Body.text ((if needsEnd then before ++ ['\n'] else before) ++ item.text none slot) rest

end TypstMarkup.Toml
