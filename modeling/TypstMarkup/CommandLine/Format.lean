import TypstMarkup.CommandLine.Options
import TypstMarkup.CommandLine.Parameter
import TypstMarkup.CommandLine.Report
import TypstMarkup.Expression.Literal
import TypstMarkup.Template.Render

/-!
The command that formats a literal or renders a template. The settings of a literal come from the
configuration, then from options, then from parameters in order; a template has its own settings and
sees neither.
-/
namespace TypstMarkup.CommandLine

inductive FormatOption where
  | mode | inline | block | indent | depth | parameter | template | binding | noNewline | help
deriving DecidableEq, Repr

namespace FormatOption

def options : Options FormatOption where
  long := [("--mode", .mode), ("--inline", .inline), ("--block", .block), ("--indent", .indent),
    ("--depth", .depth), ("--parameter", .parameter), ("--template", .template),
    ("--var", .binding), ("--no-newline", .noNewline), ("--help", .help)]
  short := [('p', .parameter), ('n', .noNewline), ('h', .help)]
  takesValue := fun o => [mode, indent, depth, parameter, binding].contains o

def shown : FormatOption → String
  | .mode => "'--mode'"
  | .inline | .block => "'--inline' / '--block'"
  | .indent => "'--indent'"
  | .depth => "'--depth'"
  | .parameter => "'-p' / '--parameter'"
  | .template => "'--template'"
  | .binding => "'--var'"
  | .noNewline => "'-n' / '--no-newline'"
  | .help => "'-h' / '--help'"

end FormatOption

def depth? (text : String) : Except String Nat :=
  match Text.readInteger? text.toList with
  | .ok (some n) =>
    if 0 ≤ n then .ok n.toNat else .error s!"{n} is not in the range x>=0."
  | _ => .error s!"{Text.quotedString text} is not a valid integer range."

structure FormatRequest where
  value : String
  mode : Option Mode := none
  inline : Option Bool := none
  indent : Option String := none
  depth : Option Nat := none
  parameters : List (String × String) := []
  isTemplate : Bool := false
  bindings : List (String × String) := []
  endsLine : Bool := true

namespace FormatRequest

def checked {α : Type} (o : FormatOption) (read : String → Except String α) (text : String) :
    Except Misuse α :=
  (read text).mapError fun reason => .badValue o.shown reason

/-- The values of an option that counts once, or of every use of one that counts each time. -/
def usesOf (g : Given FormatOption) (o : FormatOption) : List String :=
  match o with
  | .parameter | .binding => g.values o
  | o => (g.last? o).toList

def checkUses (g : Given FormatOption) (o : FormatOption) : Except Misuse Unit :=
  match o with
  | .mode => (usesOf g o).forM fun text => do discard (checked o mode? text)
  | .depth => (usesOf g o).forM fun text => do discard (checked o depth? text)
  | .parameter | .binding =>
    (usesOf g o).forM fun text => do discard (checked o assignment? text)
  | _ => .ok ()

/-- The choice between inline and block, made by the option given last. -/
def inlineChoice (g : Given FormatOption) : Option Bool :=
  (g.options.filterMap fun entry =>
    match entry.1 with
    | .inline => some true
    | .block => some false
    | _ => none).getLast?

/-- The request that arguments make. Values are checked in the order in which their options are
first used. -/
def ofGiven? (g : Given FormatOption) : Except Misuse FormatRequest := do
  (g.options.map Prod.fst).eraseDups.forM (checkUses g)
  match g.arguments with
  | [] => throw (.argumentMissing "VALUE")
  | value :: extra =>
    if !extra.isEmpty then throw (.tooManyArguments extra)
    return {
      value
      mode := ← (g.last? .mode).mapM (checked .mode mode?)
      inline := inlineChoice g
      indent := g.last? .indent
      depth := ← (g.last? .depth).mapM (checked .depth depth?)
      parameters := ← (g.values .parameter).mapM (checked .parameter assignment?)
      isTemplate := g.has .template
      bindings := ← (g.values .binding).mapM (checked .binding assignment?)
      endsLine := !g.has .noNewline }

def settings (q : FormatRequest) : List (String × Value) :=
  (q.mode.map fun m => ("mode", Value.mode m)).toList ++
    (q.inline.map fun b => ("inline", Value.bool b)).toList ++
    (q.indent.map fun text => ("indent", Value.str text)).toList ++
    (q.depth.map fun n => ("depth", Value.int n)).toList

def layered (q : FormatRequest) (c : Configuration) : Context :=
  (c.settings.insertAll q.settings).insertAll (q.parameters.map fun p => (p.1, .str p.2))

end FormatRequest

/-- Whether a failure to read a literal is one of the data. -/
def isLiteralFailure : Category → Bool
  | .valueError | .syntaxError | .typeError | .memory | .recursion => true
  | _ => false

def literalValue (what text : String) : Step Value :=
  match Expression.literal? text.toList with
  | .ok v => .ok v
  | .error f =>
    if isLiteralFailure f.category then
      .error (.refused ⟨.data, s!"Invalid Python literal for {what}: {Text.quotedString text}"⟩)
    else .error (.failed f)

def templateText (source : String) (bindings : List (String × String)) : Step (List Char) := do
  let bound ← bindings.mapM fun (name, text) => do
    return (name, ← literalValue s!"--var {name}" text)
  let template ← attempt (Template.ofSource? source.toList)
  match template.render (Template.withStandardNames (OrderedMap.ofList bound)) with
  | .ok v => return v.plainText.toList
  | .error f =>
    if isEvaluationFailure f.category then
      throw (.refused ⟨.data, s!"Error evaluating template: {f.message}"⟩)
    else throw (.failed f)

def literalText (s : State) (q : FormatRequest) : Step (List Char) := do
  let c ← s.configuration?
  let v ← literalValue "VALUE" q.value
  attempt (Markup.renderText .builtin v (q.layered c))

def formattedText (s : State) (q : FormatRequest) : Step (List Char) :=
  if !q.bindings.isEmpty && !q.isTemplate then
    .error (.refused ⟨.usage, "--var requires --template"⟩)
  else if q.isTemplate then templateText q.value q.bindings
  else literalText s q

def runFormat (s : State) (q : FormatRequest) : Step Report := do
  let text ← formattedText s q
  return { output := s.console.written text q.endsLine }

end TypstMarkup.CommandLine
