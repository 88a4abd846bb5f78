import TypstMarkup.Compiler.Run
import TypstMarkup.Value.Fingerprint
import TypstMarkup.Value.Indexing

/-!
Compiler commands as values: parameters, whether failure is tolerated, and changes to the variables.
A replaced set of variables is exact; variables added afterwards come on top of it. Variables are
put in the order of their names whenever a command is built, and every change builds a command anew,
so commands that mean the same are equal.
-/
namespace TypstMarkup.Compiler

abbrev Variables := List (String × String)

namespace Variables

def ofMap (m : OrderedMap String) : Variables :=
  m.entries.mergeSort fun a b => a.1 ≤ b.1

def toMap (vs : Variables) : OrderedMap String :=
  OrderedMap.ofList vs

end Variables

structure Command where
  parameters : List String := []
  toleratesFailure : Bool := false
  /-- The variables that replace the inherited ones. -/
  replaced : Option Variables := none
  /-- The variables that are added. -/
  added : Variables := []
  executable : Option String := none
deriving DecidableEq, Repr

namespace Command

def build (parameters : List String) (toleratesFailure : Bool := false)
    (replaced : Option (OrderedMap String) := none) (added : OrderedMap String := .empty)
    (executable : Option String := none) : Command where
  parameters
  toleratesFailure
  replaced := replaced.map .ofMap
  added := .ofMap added
  executable

def replacedMap (c : Command) : Option (OrderedMap String) :=
  c.replaced.map Variables.toMap

def addedMap (c : Command) : OrderedMap String :=
  Variables.toMap c.added

/-- A command from a list of values, each written as plain text. A single text is refused. -/
def ofValue? (parameters : Value) : Except Fault Command :=
  if parameters.text?.isSome then
    .error (.failed .typeError "parameters must be a sequence of strings, not a string")
  else do
    return build (← (← parameters.items?).mapM Value.plainText?)

/-- A command from parameters with single spaces between them. -/
def ofText (text : String) : Command :=
  build (if text.isEmpty then [] else (text.toList.splitOn ' ').map String.ofList)

def program (c : Command) (w : Workplace) : String :=
  ((c.executable.filter fun text => !text.isEmpty).or
    (w.setVariable? Configuration.executableVariable)).getD Configuration.defaultExecutable

def items (c : Command) (w : Workplace) : List String :=
  c.program w :: c.parameters

def sequence (c : Command) (w : Workplace) : Value :=
  .tuple ((c.items w).map .str)

def shown (c : Command) : String :=
  "typst\x60" ++ " ".intercalate c.parameters ++ "\x60"

def tolerating (c : Command) : Command :=
  build c.parameters true c.replacedMap c.addedMap c.executable

def adding (c : Command) (environment : OrderedMap String) : Command :=
  build c.parameters c.toleratesFailure c.replacedMap (c.addedMap.update environment) c.executable

def replacing (c : Command) (environment : OrderedMap String) : Command :=
  build c.parameters c.toleratesFailure (some environment) .empty c.executable

def fingerprintOf (vs : Variables) : Fingerprint :=
  .tuple (vs.map fun (name, text) => .tuple [.ofText name, .ofText text])

def fingerprint (c : Command) : Fingerprint :=
  .tuple [.tuple (c.parameters.map .ofText), .number (if c.toleratesFailure then 1 else 0),
    (c.replaced.map fingerprintOf).getD .null, fingerprintOf c.added,
    (c.executable.map .ofText).getD .null]

def request (c : Command) : Request where
  arguments := c.parameters
  environment := (Variables.toMap (c.replaced.getD [])).update (Variables.toMap c.added)
  toleratesFailure := c.toleratesFailure
  inherits := c.replaced.isNone
  executable := c.executable

def run (c : Command) (w : Workplace) (compiler : Invocation → Outcome)
    (configuration : Option Configuration) : Run Result :=
  c.request.run w compiler configuration

end Command

end TypstMarkup.Compiler
