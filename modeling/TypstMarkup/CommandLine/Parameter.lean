import TypstMarkup.Mode
import TypstMarkup.Text.Identifier

/-!
Parameters of the command line: modes, assignments and numbers. A refused parameter comes back as
the wording of the refusal.
-/
namespace TypstMarkup.CommandLine

def mode? (text : String) : Except String Mode :=
  match Mode.ofToken? text.toList with
  | some mode => .ok mode
  | none =>
    let names := ", ".intercalate (Mode.all.map Mode.name)
    .error s!"Invalid value '{text}'. Must be one of: {names}"

/-- The key and the value of an assignment; the first equals sign separates them. -/
def assignment? (text : String) : Except String (String × String) :=
  let source := text.toList
  let key := Text.strip (source.takeWhile (· != '='))
  if source.contains '=' && Text.isIdentifier key then
    .ok (String.ofList key, String.ofList ((source.dropWhile (· != '=')).drop 1))
  else .error s!"Expected KEY=VALUE with an identifier key, got '{text}'"

end TypstMarkup.CommandLine
