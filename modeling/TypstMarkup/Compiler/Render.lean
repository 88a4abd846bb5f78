import TypstMarkup.Compiler.Command
import TypstMarkup.Markup.Write

/-!
Rendering a value to a document: the value is formatted, written to a source file after a preamble,
and compiled. A value that cannot be formatted leaves no file and starts nothing.
-/
namespace TypstMarkup.Compiler

def defaultPreamble : String :=
  "#set page(\n    margin: 1em,\n    height: auto,\n    width: auto,\n    fill: white\n)\n\n" ++
    "#set text(16pt)\n\n"

structure Document where
  input : String := "input.typ"
  output : String := "output.pdf"
  preamble : String := defaultPreamble
  settings : Context := .empty
  /-- Whether the one who asks for the document puts up with a failing compiler. -/
  toleratesFailure : Bool := false

def Document.source? (d : Document) (r : Markup.Registry) (v : Value) : Except Fault String := do
  let text ← Markup.renderText r v d.settings
  return String.ofList (d.preamble.toList ++ text ++ ['\n'])

/-- Renders a value. The workplace comes back with the source file in it. The command that is run
is not told whether the document puts up with a failing compiler. -/
def Document.render (d : Document) (r : Markup.Registry) (w : Workplace)
    (compiler : Invocation → Outcome) (c : Option Configuration) (v : Value) :
    Run Result × Workplace :=
  match d.source? r v with
  | .error f => ({ answer := .error f }, w)
  | .ok source =>
    match w.write? (.ofText d.input) source with
    | .error cause => ({ answer := .error (.file cause (Path.ofText d.input).text) }, w)
    | .ok w =>
      let command : Command := { parameters := ["compile", d.input, d.output] }
      (command.run w compiler c, w)

end TypstMarkup.Compiler
