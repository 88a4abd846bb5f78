import TypstMarkup.Configuration.Basic
import TypstMarkup.Configuration.Settings
import TypstMarkup.Text.Part
import TypstMarkup.Toml.Document
import TypstMarkup.Value.Items

/-!
Loading configurations. The built-in defaults come first, then the files of the nearest folder that
has any, then files named explicitly. In a project file shared with other tools only one table
counts.
-/
namespace TypstMarkup

def entryAt? (entries : List (Value × Value)) (key : String) : Option Value :=
  (entries.find? fun entry => entry.1.text? == some key).map Prod.snd

namespace Configuration

/-- The table under a key; an absent one is empty. -/
def tableAt? (entries : List (Value × Value)) (key : String) :
    Except Fault (List (Value × Value)) :=
  match entryAt? entries key with
  | none | some .null => .ok []
  | some (.dict inner) => .ok inner
  | some v => .error (.configuration (.notTable key v.kind))

def defaultSource : String := "<defaults>"

def ownFile : String := "typstry.toml"

def sharedFile : String := "pyproject.toml"

def sharedTable : List String := ["tool", "typstry"]

def sharedWord : String := "typstry"

def executable? (source : String) (compiler : List (Value × Value)) :
    Except Fault (Option String) :=
  match entryAt? compiler "executable" with
  | none | some .null => .ok none
  | some v =>
    match v.text? with
    | some text => .ok (if text.isEmpty then none else some text)
    | none => .error (.configuration (.executableNotText source))

def texts? (v : Value) : Option (List String) :=
  match v with
  | .list items => items.mapM Value.text?
  | _ => none

/-- The font folders in the table of the compiler, as absolute paths. -/
def fontFolders? (w : Workplace) (source : String) (folder : Path)
    (compiler : List (Value × Value)) : Except Fault (Option (List String)) :=
  match entryAt? compiler "font_paths" with
  | none | some .null => .ok none
  | some v =>
    match texts? v with
    | some texts =>
      .ok (some (texts.map fun text => (w.resolve (folder.join (.ofText text))).text))
    | none => .error (.configuration (.fontPathsNotTexts source))

end Configuration

namespace Draft

open TypstMarkup.Configuration

/-- The draft in the table of a file. Without a file, paths are relative to the working folder. -/
def ofTable? (w : Workplace) (entries : List (Value × Value)) (file : Option Path) :
    Except Fault Draft := do
  let source := (file.map Path.text).getD defaultSource
  let settings ← settings? source (← tableAt? entries "settings")
  let compiler ← tableAt? entries "compiler"
  let executable ← executable? source compiler
  let fontFolders ← fontFolders? w source ((file.map Path.parent).getD ⟨0, []⟩) compiler
  return { settings, executable, fontFolders }

def defaults : Draft where
  settings := Context.default
  fontFolders := some []
  sources := [defaultSource]

end Draft

namespace Configuration

def unifiedLines : List Char → List Char
  | [] => []
  | '\r' :: '\n' :: rest => '\n' :: unifiedLines rest
  | '\r' :: rest => '\n' :: unifiedLines rest
  | c :: rest => c :: unifiedLines rest

def fileTable? (w : Workplace) (p : Path) : Except Fault (List (Value × Value)) :=
  match w.read? p with
  | .error cause => .error (.configuration (.unreadable p.text (cause.message p.text)))
  | .ok text =>
    match Toml.read? (unifiedLines text.toList) with
    | .ok entries => .ok (Toml.Node.toEntries entries)
    | .error .malformed => .error (.configuration (.invalidToml p.text))
    | .error (.failure cause) => .error cause

def valueAt? (entries : List (Value × Value)) : List String → Option Value
  | [] => some (.dict entries)
  | key :: path =>
    match entryAt? entries key with
    | some (.dict inner) => valueAt? inner path
    | some v => if path.isEmpty then some v else none
    | none => none

/-- The draft in a file; a shared file without a table of this tool has none. -/
def ofFile? (w : Workplace) (p : Path) : Except Fault (Option Draft) := do
  let entries ← fileTable? w p
  let entries ←
    if p.name = sharedFile then
      match valueAt? entries sharedTable with
      | none => return none
      | some v =>
        -- An empty table counts as an absent one.
        if !v.isTrue then return none
        match v with
        | .dict inner => pure inner
        | _ => throw (.configuration (.sectionNotTable p.text))
    else pure entries
  let draft ← Draft.ofTable? w entries (some p)
  return some { draft with sources := [p.text] }

/-- The configuration files in a folder: the shared file if it mentions this tool, and then the
tool's own. -/
def filesIn (w : Workplace) (folder : List String) : List Path :=
  let shared : Path := ⟨1, folder ++ [sharedFile]⟩
  let own : Path := ⟨1, folder ++ [ownFile]⟩
  (match w.find shared with
    | .file text => if Text.occursIn sharedWord.toList text.toList then [shared] else []
    | _ => []) ++ if w.hasFile own then [own] else []

/-- The configuration files of the nearest folder that has any, searched upwards; the parts of the
folder come last first. -/
def nearestFiles (w : Workplace) : List String → List Path
  | [] => filesIn w []
  | part :: above =>
    let found := filesIn w (part :: above).reverse
    if found.isEmpty then nearestFiles w above else found

/-- The configuration files found from a starting point. A file starts in its folder. -/
def discover (w : Workplace) (start : Path) : List Path :=
  let start := w.resolve start
  let folder := if w.hasFile start then start.parent else start
  nearestFiles w folder.parts.reverse

def addFile? (w : Workplace) (lower : Draft) (p : Path) : Except Fault Draft := do
  match ← ofFile? w p with
  | some upper => return lower.merge upper
  | none => return lower

/-- Puts the draft in an explicitly named file on top of a draft. -/
def addExplicit? (w : Workplace) (lower : Draft) (p : Path) : Except Fault Draft := do
  if w.hasFile p then addFile? w lower p
  else throw (.configuration (.fileNotFound p.text))

/-- The configuration for a starting point and files named explicitly. -/
def load? (w : Workplace) (start : Path) (explicit : List Path) (discovered : Bool) :
    Except Fault Configuration := do
  let found := if discovered then discover w start else []
  let draft ← found.foldlM (addFile? w) Draft.defaults
  let draft ← explicit.foldlM (addExplicit? w) draft
  return draft.freeze

end Configuration

end TypstMarkup
