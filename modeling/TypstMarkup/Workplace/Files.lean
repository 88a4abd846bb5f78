import TypstMarkup.Fault
import TypstMarkup.OrderedMap
import TypstMarkup.Workplace.Path

/-!
Where a program works: a tree of text files, a working folder and an environment of variables. Paths
are followed part by part, so a double point needs the folder before it.
-/
namespace TypstMarkup

/-- A tree of text files. Folders are those named, and all that files lie in. -/
structure Files where
  texts : List (List String × String) := []
  folders : List (List String) := []
deriving Inhabited

namespace Files

inductive Entry where
  | file (text : String)
  | folder
  | absent
  /-- A file stands where a folder is needed. -/
  | blocked
deriving DecidableEq, Repr

def textAt? (files : Files) (place : List String) : Option String :=
  (files.texts.find? fun entry => entry.1 == place).map Prod.snd

def isFolder (files : Files) (place : List String) : Bool :=
  place.isEmpty || files.folders.any (fun folder => place.isPrefixOf folder) ||
    files.texts.any fun entry => place.isPrefixOf entry.1 && place != entry.1

def follow (files : Files) (here : List String) : List String → Entry
  | [] => if files.isFolder here then .folder else .absent
  | part :: rest =>
    if part = ".." then files.follow here.dropLast rest
    else
      let place := here ++ [part]
      if files.isFolder place then files.follow place rest
      else
        match files.textAt? place with
        | some text => if rest.isEmpty then .file text else .blocked
        | none => .absent

def put (files : Files) (place : List String) (text : String) : Files :=
  { files with texts := (place, text) :: files.texts.filter fun entry => entry.1 != place }

end Files

/-- The surroundings of a program. -/
structure Workplace where
  files : Files
  folder : List String
  environment : OrderedMap String

namespace Workplace

def find (w : Workplace) (p : Path) : Files.Entry :=
  w.files.follow (if p.isAbsolute then [] else w.folder) p.parts

def hasFile (w : Workplace) (p : Path) : Bool :=
  match w.find p with
  | .file _ => true
  | _ => false

def read? (w : Workplace) (p : Path) : Except FileFault String :=
  match w.find p with
  | .file text => .ok text
  | .folder => .error .isDirectory
  | .absent => .error .missing
  | .blocked => .error .notDirectory

def resolve (w : Workplace) (p : Path) : Path :=
  p.resolve w.folder

/-- Writes a file. Its folder must exist, and no folder may stand in its place. -/
def write? (w : Workplace) (p : Path) (text : String) : Except FileFault Workplace :=
  let place := (w.resolve p).parts
  match w.find p with
  | .file _ => .ok { w with files := w.files.put place text }
  | .folder => .error .isDirectory
  | .blocked => .error .notDirectory
  | .absent =>
    match w.find p.parent with
    | .folder => .ok { w with files := w.files.put place text }
    | .absent => .error .missing
    | _ => .error .notDirectory

/-- The value of a variable, unless it is empty. -/
def setVariable? (w : Workplace) (name : String) : Option String :=
  (w.environment.get? name).filter fun text => !text.isEmpty

end Workplace

end TypstMarkup
