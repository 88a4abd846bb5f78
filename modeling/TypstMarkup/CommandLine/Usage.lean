import TypstMarkup.Text.Quoted

/-!
Misuse of the command line, found before anything is done.
-/
namespace TypstMarkup.CommandLine

inductive Misuse where
  | unknownOption (name : String) (similar : List String)
  | unknownCommand (name : String) (similar : List String)
  | valueMissing (option : String)
  | valueRefused (option : String)
  | argumentMissing (name : String)
  | tooManyArguments (extra : List String)
  /-- A value given for an option, shown with all its names, is no value for it. -/
  | badValue (option reason : String)
deriving DecidableEq, Repr

def Misuse.status : Nat := 2

def proposal : List String → String
  | [] => ""
  | [name] => s!" Did you mean {Text.quotedString name}?"
  | names => " (Did you mean one of: " ++ ", ".intercalate (names.map Text.quotedString) ++ "?)"

def Misuse.message : Misuse → String
  | .unknownOption name similar => s!"No such option {Text.quotedString name}." ++ proposal similar
  | .unknownCommand name similar =>
    s!"No such command {Text.quotedString name}." ++ proposal similar
  | .valueMissing option => s!"Option {Text.quotedString option} requires an argument."
  | .valueRefused option => s!"Option {Text.quotedString option} does not take a value."
  | .argumentMissing name => s!"Missing argument '{name}'."
  | .tooManyArguments [extra] => s!"Got unexpected extra argument ({extra})"
  | .tooManyArguments extra => "Got unexpected extra arguments (" ++ " ".intercalate extra ++ ")"
  | .badValue option reason => s!"Invalid value for {option}: {reason}"

end TypstMarkup.CommandLine
