/-!
Paths of files. A path is written with slashes between its parts; empty parts and single points do
not count, and a path that starts with a slash is absolute. Exactly two slashes in front are kept.
-/
namespace TypstMarkup

/-- A path: the number of slashes in front, and the parts. -/
structure Path where
  slashes : Nat
  parts : List String
deriving DecidableEq, Repr

namespace Path

def ofText (text : String) : Path :=
  let source := text.toList
  let front := (source.takeWhile (· == '/')).length
  let parts := (source.splitOn '/').filter fun part => !part.isEmpty && part != ['.']
  ⟨if front = 2 then 2 else min front 1, parts.map String.ofList⟩

/-- Whether a path does not depend on a folder. -/
def isAbsolute (p : Path) : Bool :=
  p.slashes != 0

def text (p : Path) : String :=
  if p.slashes = 0 && p.parts.isEmpty then "."
  else String.ofList (List.replicate p.slashes '/') ++ "/".intercalate p.parts

def join (folder p : Path) : Path :=
  if p.isAbsolute then p else ⟨folder.slashes, folder.parts ++ p.parts⟩

def parent (p : Path) : Path :=
  ⟨p.slashes, p.parts.dropLast⟩

def name (p : Path) : String :=
  p.parts.getLast?.getD ""

/-- Goes down along parts, and up at each double point; there is nothing above the top. -/
def descend (start : List String) (parts : List String) : List String :=
  parts.foldl (fun here part => if part = ".." then here.dropLast else here ++ [part]) start

/-- The absolute path without double points that a path stands for in a working folder. -/
def resolve (working : List String) (p : Path) : Path :=
  if p.isAbsolute then ⟨p.slashes, descend [] p.parts⟩ else ⟨1, descend working p.parts⟩

end Path

end TypstMarkup
