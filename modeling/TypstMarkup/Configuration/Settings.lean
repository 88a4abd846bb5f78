import TypstMarkup.Markup.Context

/-!
Settings in configuration files. The four core settings must have the kind of value their accessors
expect, with a mode given by its name; every other setting may be a text, a number or a truth value.
-/
namespace TypstMarkup.Configuration

/-- A refused setting. A value that cannot be shown hides the refusal behind its own failure. -/
def refused (source key expected : String) (found : Value) : Fault :=
  if found.overlong then .tooManyDigits else .configuration (.setting source key expected found)

def setting? (source key : String) (v : Value) : Except Fault Value :=
  match key with
  | "mode" =>
    match v.text?.bind fun text => Mode.ofToken? text.toList with
    | some mode => .ok (.mode mode)
    | none => .error (refused source key "one of 'code', 'markup' or 'math'" v)
  | "inline" =>
    match v with
    | .bool b => .ok (.bool b)
    | _ => .error (refused source key "a boolean" v)
  | "indent" =>
    if v.text?.isSome then .ok v else .error (refused source key "a string" v)
  | "depth" =>
    match Context.properInt? v with
    | some n =>
      if 0 ≤ n then .ok v else .error (refused source key "a non-negative integer" v)
    | none => .error (refused source key "a non-negative integer" v)
  | _ =>
    match v.core with
    | .float _ => .ok v
    | _ =>
      if v.text?.isSome || v.int?.isSome then .ok v
      else .error (refused source key "a string, number or boolean" v)

def settings? (source : String) (entries : List (Value × Value)) : Except Fault Context := do
  let checked ← entries.mapM fun (key, v) => do
    return (key.plainText, ← setting? source key.plainText v)
  return OrderedMap.ofList checked

end TypstMarkup.Configuration
