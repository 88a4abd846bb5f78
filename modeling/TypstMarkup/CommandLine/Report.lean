import TypstMarkup.CommandLine.Refusal
import TypstMarkup.CommandLine.Usage
import TypstMarkup.Compiler.Run
import TypstMarkup.Log.Level
import TypstMarkup.Terminal.Console

/-!
What a run of the program comes to: an exit status, two texts, the runs of the compiler, and
perhaps a failure that no exit status is meant for.
-/
namespace TypstMarkup.CommandLine

/-- How a command ends early. -/
inductive Ending where
  | misused (m : Misuse)
  | refused (r : Refusal)
  | failed (f : Fault)

/-- What a run of the program comes to. -/
structure Report where
  status : Int := 0
  output : List Char := []
  errors : List Char := []
  failure : Option Fault := none
  started : List Compiler.Invocation := []

/-- A line that tells of an error. Codes in it are dropped. -/
def errorLine (message : String) : List Char :=
  Terminal.plain (("Error: " ++ message).toList ++ ['\n'])

def Ending.report : Ending → Report
  | .misused m => { status := Misuse.status, errors := errorLine m.message }
  | .refused r => { status := r.kind.status, errors := errorLine r.message }
  | .failed f => { status := 1, failure := some f }

def Ending.ofFault (f : Fault) : Ending :=
  match refusal? f with
  | some r => .refused r
  | none => .failed f

/-- A part of a command, which may end it early. -/
abbrev Step (α : Type) := Except Ending α

def attempt {α : Type} (result : Except Fault α) : Step α :=
  result.mapError Ending.ofFault

def reading {α : Type} (result : Except Misuse α) : Step α :=
  result.mapError Ending.misused

/-- The surroundings of a command: the console, the level of the log, and where the configuration
comes from. -/
structure State where
  workplace : Workplace
  console : Terminal.Console
  level : Log.Level
  explicit : List Path
  discovered : Bool

def State.configuration? (s : State) : Step Configuration :=
  attempt (Configuration.load? s.workplace (.ofText ".") s.explicit s.discovered)

end TypstMarkup.CommandLine
