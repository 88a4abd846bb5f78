import TypstMarkup.Text.Case
import TypstMarkup.Value.Conversion
import TypstMarkup.Workplace.Files

/-!
Levels of the log: numbers, of which some have names. A level is given by a name in any case or by
its digits.
-/
namespace TypstMarkup.Log

/-- A level; higher ones are more severe. -/
abbrev Level := Int

namespace Level

def trace : Level := 5
def debug : Level := 10
def info : Level := 20
def warning : Level := 30
def error : Level := 40
def critical : Level := 50
def unset : Level := 0

def names : List (String × Level) :=
  [("TRACE", trace), ("DEBUG", debug), ("INFO", info), ("WARNING", warning), ("WARN", warning),
    ("ERROR", error), ("CRITICAL", critical), ("FATAL", critical), ("NOTSET", unset)]

def name (level : Level) : String :=
  match names.find? fun entry => entry.2 == level with
  | some entry => entry.1
  | none => s!"Level {level}"

/-- The level a text gives. A text of digits that is no decimal number is a failure. -/
def ofText? (text : List Char) : Except Fault (Option Level) := do
  let token := Text.upper (Text.strip text)
  if !token.isEmpty && token.all Text.isDigit then
    match ← Text.readInteger? token with
    | some level => return some level
    | none => throw (Fault.notANumber (String.ofList (Text.quoted token)))
  else
    return (names.find? fun entry => entry.1.toList == token).map Prod.snd

def levelVariable : String := "TYPSTRY_LOG_LEVEL"

def ofVariables? (w : Workplace) : Except Fault (Option Level) :=
  match w.setVariable? levelVariable with
  | some text => ofText? text.toList
  | none => .ok none

end Level

end TypstMarkup.Log
