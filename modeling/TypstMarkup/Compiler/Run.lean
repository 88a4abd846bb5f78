import TypstMarkup.Configuration.Load

/-!
Runs of the compiler. What is started is a list of arguments and a set of variables; what comes back
is that nothing could be started, or a status and two texts. A status other than zero is a failure
unless the request tolerates it.
-/
namespace TypstMarkup.Compiler

/-- What is started: the program, its arguments after it, and all its variables. -/
structure Invocation where
  arguments : List String
  environment : OrderedMap String

/-- What a finished run leaves behind. -/
structure Result where
  status : Int
  output : String
  errors : String
deriving DecidableEq, Repr

def Result.succeeded (r : Result) : Bool :=
  r.status = 0

inductive Outcome where
  | notFound
  | ended (result : Result)
deriving DecidableEq, Repr

structure Request where
  arguments : List String
  environment : OrderedMap String := .empty
  toleratesFailure : Bool := false
  /-- Whether the variables come on top of those of the workplace. -/
  inherits : Bool := true
  executable : Option String := none

/-- An answer, and what was started to get it. -/
structure Run (α : Type) where
  answer : Except Fault α
  started : List Invocation := []

def Request.program (q : Request) (w : Workplace) (c : Configuration) : String :=
  (q.executable.filter fun text => !text.isEmpty).getD (c.program w)

/-- What a request starts. Its own variables win over the configured ones, and these over the
inherited ones. -/
def Request.invocation (q : Request) (w : Workplace) (c : Configuration) : Invocation where
  arguments := q.program w c :: q.arguments
  environment :=
    ((if q.inherits then w.environment else .empty).update c.compilerVariables).update q.environment

def Request.judge (q : Request) (program : String) : Outcome → Except Fault Result
  | .notFound => .error (.compilerMissing program)
  | .ended r =>
    if r.succeeded || q.toleratesFailure then .ok r
    else .error (.compilerFailed q.arguments r.status r.errors)

/-- The configuration given, or else the one found from the working folder. -/
def configured (w : Workplace) (c : Option Configuration) : Except Fault Configuration :=
  match c with
  | some c => .ok c
  | none => Configuration.load? w (.ofText ".") [] true

def Request.run (q : Request) (w : Workplace) (compiler : Invocation → Outcome)
    (c : Option Configuration) : Run Result :=
  match configured w c with
  | .error f => { answer := .error f }
  | .ok c =>
    let started := q.invocation w c
    { answer := q.judge (q.program w c) (compiler started), started := [started] }

end TypstMarkup.Compiler
