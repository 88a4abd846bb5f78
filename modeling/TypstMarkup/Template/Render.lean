import TypstMarkup.Expression.Evaluate
import TypstMarkup.Template.Scan

/-!
Rendering of templates. Every splice calls the constructor of finished source, and the plain text of
what it gives stands in its place. All splices of one rendering share their names.
-/
namespace TypstMarkup.Template

open Expression (Surroundings Evaluating evaluate)

def standardNames : List (String × Value) :=
  [("Char", .builtin .char), ("Decimal", .builtin .decimal), ("Fraction", .builtin .fraction),
    ("Matrix", .builtin .matrix), ("Mode", .builtin .mode), ("Raw", .builtin .raw),
    ("TypstText", .builtin .verbatim), ("re", .builtin .patternModule)]

def renderSegment : Segment → Evaluating (List Char)
  | .literal text => return text
  | .splice s => do
    let v ← evaluate s.call
    return (← v.plainText?).toList

/-- The finished source that a template gives for the values of names, by the rules of a registry. -/
def render (t : Template) (names : OrderedMap Value) (r : Markup.Registry := .builtin) :
    Except Fault Value := do
  let names := names.insert constructorName (.builtin .markup)
  let (texts, _) ← (t.segments.mapM renderSegment).run { names := names.entries, registry := r }
  return .markup (String.ofList texts.flatten)

/-- The names of templates, with given names in front of the standard ones. -/
def withStandardNames (given : OrderedMap Value) : OrderedMap Value :=
  (OrderedMap.ofList standardNames).update given

/-- The name that cannot be given to a template as an argument. -/
def receiverName : String := "self"

/-- Renders a template with arguments as its only names. -/
def substitute (t : Template) (arguments : OrderedMap Value) : Except Fault Value :=
  if arguments.contains receiverName then
    .error (.failed .typeError
      s!"Template.substitute() got multiple values for argument '{receiverName}'")
  else t.render arguments

end TypstMarkup.Template
