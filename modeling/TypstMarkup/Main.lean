import TypstMarkup.CommandLine.Program

/-!
The program at a terminal. Everything that the run may need is read first: the variables, the
configuration files on the way up from the working folder, and the files among the arguments.
Nothing is started here, so every run of the compiler finds no compiler.
-/
namespace TypstMarkup

/-- The text of a file, if there is one that can be read. -/
def textOf? (path : String) : IO (Option String) := do
  try return some (← IO.FS.readFile path)
  catch _ => return none

/-- The folders on the way up from a folder, given by its parts, itself first. -/
def foldersUp (parts : List String) : List (List String) :=
  (List.range (parts.length + 1)).map fun above => parts.take (parts.length - above)

def knownVariables : List String :=
  [Configuration.executableVariable, Configuration.fontVariable, Log.Level.levelVariable]

/-- The part of the surroundings that a run may need. -/
def surroundings (arguments : List String) : IO Workplace := do
  let here := (Path.ofText ((← IO.getEnv "PWD").getD "/")).resolve []
  let candidates := (foldersUp here.parts).flatMap fun folder =>
    [Configuration.sharedFile, Configuration.ownFile].map fun name => folder ++ [name]
  let places := candidates ++ arguments.map fun argument =>
    ((Path.ofText argument).resolve here.parts).parts
  let texts ← places.filterMapM fun place => do
    return (← textOf? (Path.mk 1 place).text).map fun text => (place, text)
  let environment ← knownVariables.filterMapM fun name => do
    return (← IO.getEnv name).map fun text => (name, text)
  return { files := { texts, folders := [here.parts] }, folder := here.parts
           environment := OrderedMap.ofList environment }

end TypstMarkup

open TypstMarkup

def main (arguments : List String) : IO UInt32 := do
  let report := CommandLine.run (← surroundings arguments) (fun _ => .notFound) arguments
  IO.print (String.ofList report.output)
  IO.eprint (String.ofList report.errors)
  if let some failure := report.failure then IO.eprintln failure.message
  return UInt32.ofNat (report.status % 256).toNat
