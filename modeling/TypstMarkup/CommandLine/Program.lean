import TypstMarkup.CommandLine.Format
import TypstMarkup.CommandLine.Verbosity
import TypstMarkup.Configuration.Dump

/-!
The program. Its own options come first, then a command with options and arguments of its own. The
command is looked up before anything else happens, and its arguments are read after the common state
is set up.
-/
namespace TypstMarkup.CommandLine

inductive CommonOption where
  | verbose | quiet | noConfig | config | noColour | help
deriving DecidableEq, Repr

def CommonOption.options : Options CommonOption where
  long := [("--verbose", .verbose), ("--quiet", .quiet), ("--no-config", .noConfig),
    ("--config", .config), ("--no-color", .noColour), ("--help", .help)]
  short := [('v', .verbose), ('q', .quiet), ('h', .help)]
  takesValue := fun o => o = .config
  mixed := false

inductive DumpOption where
  | shared | sources | help
deriving DecidableEq, Repr

/-- The names of the options of the command that shows the configuration. -/
def DumpOption.options : Options DumpOption where
  long := [("--pyproject", .shared), ("--sources", .sources), ("--help", .help)]
  short := [('h', .help)]
  takesValue := fun _ => false

/-- The names of the only option of a command without options; unknown ones may count as
arguments. -/
def helpOnly (tolerant : Bool) : Options Unit where
  long := [("--help", ())]
  short := [('h', ())]
  takesValue := fun _ => false
  tolerant := tolerant

inductive Command where
  | version | config | format | compile
deriving DecidableEq, Repr

def Command.names : List (String × Command) :=
  [("version", .version), ("config", .config), ("format", .format), ("compile", .compile)]

def Command.named? (name : String) : Option Command :=
  (names.find? fun entry => entry.1 == name).map Prod.snd

def version : String := "0.1.0"

def helpReport (usage : String) : Report :=
  { output := ("Usage: typstry " ++ usage ++ "\n").toList }

def programUsage : String := "[OPTIONS] COMMAND [ARGS]..."

/-- What the program says when it is given no command. -/
def hint : String := "Hint: use 'typstry format VALUE' to format a Python literal."

def withoutArguments {α : Type} (g : Given α) : Except Misuse Unit :=
  if g.arguments.isEmpty then .ok () else .error (.tooManyArguments g.arguments)

def runVersion (s : State) : Report :=
  let number := s.console.styled { bold := some true } version.toList
  if s.level ≤ Log.Level.info then
    let title := s.console.styled { bold := some true, underline := some true }
      "Typstry version:\n".toList
    { output := s.console.written title true ++
        s.console.written ("    ".toList ++ number) true }
  else { output := s.console.written number true }

def runDump (s : State) (g : Given DumpOption) : Step Report := do
  let c ← s.configuration?
  let text ← (c.document? (g.has .shared) (g.has .sources)).mapError Ending.failed
  return { output := s.console.written text false }

/-- Runs the command that passes its arguments to the compiler and ends with its status. -/
def runCompile (s : State) (compiler : Compiler.Invocation → Compiler.Outcome)
    (arguments : List String) : Report :=
  match s.configuration? with
  | .error ending => ending.report
  | .ok c =>
    -- A failing compiler is no failure of the command, which passes its status on.
    let q : Compiler.Request := { arguments, toleratesFailure := true }
    let run := q.run s.workplace compiler (some c)
    match run.answer with
    | .error f => { (Ending.ofFault f).report with started := run.started }
    | .ok r =>
      { status := r.status
        output := if r.output.isEmpty then [] else s.console.written r.output.toList false
        errors := if r.errors.isEmpty then [] else s.console.error r.errors.toList false
        started := run.started }

def reported (step : Step Report) : Report :=
  match step with
  | .ok r => r
  | .error ending => ending.report

def runCommand (s : State) (compiler : Compiler.Invocation → Compiler.Outcome) (command : Command)
    (arguments : List String) : Report :=
  match command with
  | .version => reported do
    let g ← reading ((helpOnly false).read arguments)
    if g.has () then return helpReport "version [OPTIONS]"
    reading (withoutArguments g)
    return runVersion s
  | .config => reported do
    let g ← reading (DumpOption.options.read arguments)
    if g.has .help then return helpReport "config [OPTIONS]"
    reading (withoutArguments g)
    runDump s g
  | .format => reported do
    let g ← reading (FormatOption.options.read arguments)
    if g.has .help then return helpReport "format [OPTIONS] VALUE"
    runFormat s (← reading (FormatRequest.ofGiven? g))
  | .compile => reported do
    let g ← reading ((helpOnly true).read arguments)
    if g.has () then return helpReport "compile [OPTIONS] [ARGUMENTS]..."
    return runCompile s compiler g.arguments

def checkFile (w : Workplace) (name : String) : Except Misuse Unit :=
  let bad (reason : String) : Except Misuse Unit := .error (.badValue "'--config'" reason)
  let shown := Text.quotedString name
  match if name.isEmpty then .absent else w.find (.ofText name) with
  | .file _ => .ok ()
  | .folder => bad s!"File {shown} is a directory."
  | _ => bad s!"File {shown} does not exist."

/-- The common options of a command line; nothing if help is asked for. -/
def common? (w : Workplace) (arguments : List String) :
    Except Misuse (Option (Given CommonOption)) := do
  let g ← CommonOption.options.read arguments
  if g.has .help then return none
  (g.values .config).forM (checkFile w)
  return some g

/-- The state that common options set up, the log among it. -/
def State.ofCommon? (w : Workplace) (g : Given CommonOption) : Step State := do
  let level ← (verbosity? (g.count .verbose) (g.count .quiet)).mapError Ending.refused
  let asked ← (askedLevel? w level (g.count .verbose)).mapError Ending.failed
  discard ((setupLevel? w asked).mapError Ending.failed)
  return {
    workplace := w
    console := ⟨!g.has .noColour⟩
    level
    explicit := (g.values .config).map .ofText
    discovered := !g.has .noConfig }

/-- The ending for a name that is no command. A name that looks like an option is read as one once
more, which may say more about it. -/
def unknownCommand (w : Workplace) (name : String) (arguments : List String) : Report :=
  let similar := Text.similar name (Command.names.map Prod.fst)
  let unknown : Report := (Ending.misused (.unknownCommand name similar)).report
  if name.startsWith "-" then
    match common? w arguments with
    | .error m => (Ending.misused m).report
    | .ok none => helpReport programUsage
    | .ok (some _) => unknown
  else unknown

def run (w : Workplace) (compiler : Compiler.Invocation → Compiler.Outcome)
    (arguments : List String) : Report :=
  match common? w arguments with
  | .error m => (Ending.misused m).report
  | .ok none => helpReport programUsage
  | .ok (some g) =>
    match g.arguments with
    | [] => reported do
      let s ← State.ofCommon? w g
      return { output := s.console.written hint.toList true ++ s.console.written [] true ++
        s.console.written (helpReport programUsage).output false }
    | name :: rest =>
      match Command.named? name with
      | none => unknownCommand w name g.arguments
      | some command =>
        match State.ofCommon? w g with
        | .error ending => ending.report
        | .ok s => runCommand s compiler command rest

end TypstMarkup.CommandLine
