import TypstMarkup.CommandLine.Refusal
import TypstMarkup.Log.Level

/-!
How much a program tells: every request for more lowers the level of the log a step, and a request
for less raises it; the two exclude each other.
-/
namespace TypstMarkup.CommandLine

/-- The level for a number of requests for more and for less. -/
def verbosity? (more less : Nat) : Except Refusal Log.Level :=
  if 0 < more && 0 < less then
    .error ⟨.usage, "The '--verbose' and '--quiet' options are mutually exclusive."⟩
  else if 3 ≤ more then .ok Log.Level.trace
  else if more = 2 then .ok Log.Level.debug
  else if more = 1 then .ok Log.Level.info
  else if 1 ≤ less then .ok Log.Level.error
  else .ok Log.Level.warning

/-- The level of the log that is asked for: what the variables give wins over what requests for more
come to, and without either it is left open. -/
def askedLevel? (w : Workplace) (level : Log.Level) (more : Nat) :
    Except Fault (Option Log.Level) := do
  match ← Log.Level.ofVariables? w with
  | some given => return some given
  | none => return if 0 < more then some level else none

/-- The level of the log set up for a level that may be left open: then the variables give it,
unless they give none or zero. -/
def setupLevel? (w : Workplace) (level : Option Log.Level) : Except Fault Log.Level :=
  match level with
  | some level => .ok level
  | none => do
    match ← Log.Level.ofVariables? w with
    | some level => return if level = 0 then Log.Level.critical else level
    | none => return Log.Level.critical

end TypstMarkup.CommandLine
