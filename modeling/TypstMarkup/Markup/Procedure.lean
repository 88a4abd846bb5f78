import TypstMarkup.Markup.Rule

/-!
Procedures. What a rule does with a value is a tree of questions: it ends with what was written, or
has another value written and goes on with what came of that.
-/
namespace TypstMarkup.Markup

/-- What is left to do for a rule. -/
inductive Procedure where
  | finish (e : Emission)
  /-- Has a value written under the settings at hand with some changed, or under settings of its
  own, and goes on with what was written and whether it failed. -/
  | call (v : Value) (inherits : Bool) (settings : List (String × Value))
    (next : Emission → Procedure)

namespace Procedure

def context (c : Context) (inherits : Bool) (settings : List (String × Value)) : Context :=
  (if inherits then c else OrderedMap.empty).insertAll settings

def run (write : Writer) (c : Context) : Procedure → Emission
  | finish e => e
  | call v inherits settings next => (next (write v (context c inherits settings))).run write c

end Procedure

end TypstMarkup.Markup
