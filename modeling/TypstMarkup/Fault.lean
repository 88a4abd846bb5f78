import TypstMarkup.Value.Shown
import TypstMarkup.Template.Location

/-!
Failures, each a cause with its data. The wording of all of them is in `Fault.message`, and
`Fault.category` sorts them the way callers tell them apart.
-/
namespace TypstMarkup

inductive SpliceReason where
  | unterminatedMarker
  | unterminatedString
  | empty
  /-- The contents do not parse. -/
  | invalid (contents : String)
  /-- The contents parse, but not as one value with optional settings. -/
  | notOneValue (contents : String)
  | other (message : String)
deriving DecidableEq, Repr

inductive ConfigFault where
  | setting (source key expected : String) (found : Value)
  | notTable (key : String) (found : Kind)
  | executableNotText (source : String)
  | fontPathsNotTexts (source : String)
  | sectionNotTable (path : String)
  | unreadable (path reason : String)
  | invalidToml (path : String)
  | fileNotFound (path : String)

inductive FileFault where
  | missing
  | isDirectory
  | notDirectory
  | denied
deriving DecidableEq, Repr

inductive Category where
  | unsupportedKind | settingType | malformedTemplate | configuration
  | compilerFailed | compilerMissing
  | syntaxError | typeError | valueError | nameError | attributeError | indexError | keyError
  | zeroDivision | overflow | memory | recursion | runtime | invalidDecimal | badPattern
  | fileMissing | isDirectory | notDirectory | permission | system | unwritable
  | unassigned | repeatedKey | redefinition
  /-- Any other failure of this library. -/
  | library
deriving DecidableEq, Repr

inductive Fault where
  /-- No rule formats values of this kind. -/
  | unsupportedKind (kind : Kind)
  /-- A setting does not have the kind of value a rule expects. -/
  | settingType (key : String) (found : Value) (expected : String)
  /-- A template cannot be read; the position is that of the marker. -/
  | malformedTemplate (reason : SpliceReason) (position : Nat) (location : Template.Location)
  /-- A splice parses but is refused afterwards. -/
  | refusedSplice (message : String) (line : Nat)
  | configuration (cause : ConfigFault)
  | compilerFailed (arguments : List String) (status : Int) (stderr : String)
  | compilerMissing (program : String)
  /-- An integer has too many digits to be written. -/
  | tooManyDigits
  /-- A text has too many digits to be read as an integer. -/
  | tooManyDigitsToRead (count : Nat)
  /-- A text of digits is no decimal number. -/
  | notANumber (shown : String)
  | notOneCharacter (shown : String)
  | unequalRows (lengths : List Nat)
  | zeroStep
  | notIterable (kind : Kind)
  | unhashable (kind : Kind)
  | outOfRange (sequence : String)
  | absentItem
  | absentKey (shown : String)
  | unboundName (name : String)
  | noAttribute (owner member : String)
  | operands (operation : String) (left right : Kind)
  | notANativeSize
  | notAnIndexSize
  | repeatedTooLong
  | outOfMemory
  | recursionLimit
  | file (cause : FileFault) (path : String)
  /-- Values of this kind have no form in a document. -/
  | unwritable (kind : Kind)
  /-- Any other failure of an operation, with its wording. -/
  | failed (category : Category) (text : String)

namespace ConfigFault

def message : ConfigFault → String
  | .setting source key expected found =>
    s!"{source}: settings.{key} must be {expected}, got {found.shown}"
  | .notTable key found => s!"[{key}] must be a table, got {found.name}"
  | .executableNotText source => s!"{source}: compiler.executable must be a string"
  | .fontPathsNotTexts source => s!"{source}: compiler.font_paths must be a list of strings"
  | .sectionNotTable path => s!"[tool.typstry] in {path} is not a table"
  | .unreadable path reason => s!"Cannot read config file {path}: {reason}"
  | .invalidToml path => s!"Invalid TOML in {path}"
  | .fileNotFound path => s!"Config file not found: {path}"

end ConfigFault

namespace SpliceReason

def message : SpliceReason → String
  | .unterminatedMarker => "unterminated splice marker"
  | .unterminatedString => "unterminated string literal in splice"
  | .empty => "empty splice"
  | .invalid contents => s!"invalid splice expression {Text.quotedString contents}"
  | .notOneValue contents =>
    s!"splice must hold exactly one value and optional settings, got {Text.quotedString contents}"
  | .other message => message

end SpliceReason

namespace FileFault

def message (path : String) : FileFault → String
  | .missing => s!"[Errno 2] No such file or directory: {Text.quotedString path}"
  | .isDirectory => s!"[Errno 21] Is a directory: {Text.quotedString path}"
  | .notDirectory => s!"[Errno 20] Not a directory: {Text.quotedString path}"
  | .denied => s!"[Errno 13] Permission denied: {Text.quotedString path}"

end FileFault

namespace Fault

def category : Fault → Category
  | .unsupportedKind _ => .unsupportedKind
  | .settingType _ _ _ => .settingType
  | .malformedTemplate _ _ _ => .malformedTemplate
  | .refusedSplice _ _ => .syntaxError
  | .configuration _ => .configuration
  | .compilerFailed _ _ _ => .compilerFailed
  | .compilerMissing _ => .compilerMissing
  | .tooManyDigits | .tooManyDigitsToRead _ | .notANumber _ | .notOneCharacter _
  | .unequalRows _ | .zeroStep | .absentItem => .valueError
  | .notIterable _ | .unhashable _ | .operands _ _ _ => .typeError
  | .outOfRange _ => .indexError
  | .absentKey _ => .keyError
  | .unboundName _ => .nameError
  | .noAttribute _ _ => .attributeError
  | .notANativeSize | .notAnIndexSize | .repeatedTooLong => .overflow
  | .outOfMemory => .memory
  | .recursionLimit => .recursion
  | .file .missing _ => .fileMissing
  | .file .isDirectory _ => .isDirectory
  | .file .notDirectory _ => .notDirectory
  | .file .denied _ => .permission
  | .unwritable _ => .unwritable
  | .failed category _ => category

def message : Fault → String
  | .unsupportedKind kind =>
    s!"No Typst formatting rule is registered for values of type '{kind.qualifiedName}'"
  | .settingType key found expected =>
    s!"Setting '{key}' must be {expected}, got {found.shown} of type '{found.kind.name}'"
  | .malformedTemplate reason _ location =>
    s!"{reason.message} (<typst template>, line {location.line})"
  | .refusedSplice message line => s!"{message} (<typst template>, line {line})"
  | .configuration cause => cause.message
  | .compilerFailed arguments status _ =>
    s!"Typst compiler failed with exit status {status}: typst " ++ " ".intercalate arguments
  | .compilerMissing program =>
    s!"Typst compiler {Text.quotedString program} not found; install Typst or set TYPST_EXECUTABLE"
  | .tooManyDigits =>
    "Exceeds the limit (4300 digits) for integer string conversion; " ++
      "use sys.set_int_max_str_digits() to increase the limit"
  | .tooManyDigitsToRead count =>
    s!"Exceeds the limit (4300 digits) for integer string conversion: value has {count} digits; " ++
      "use sys.set_int_max_str_digits() to increase the limit"
  | .notANumber shown =>
    "invalid literal for int() with base 10: " ++ String.ofList (shown.toList.take 200)
  | .notOneCharacter shown => s!"Char requires exactly one character, got {shown}"
  | .unequalRows lengths =>
    "Matrix rows must have equal length, got lengths " ++ bracketed "[" "]" (lengths.map toString)
  | .zeroStep => "range() arg 3 must not be zero"
  | .notIterable kind => s!"'{kind.operandName}' object is not iterable"
  | .unhashable kind => s!"unhashable type: '{kind.operandName}'"
  | .outOfRange sequence => s!"{sequence} index out of range"
  | .absentItem => ""
  | .absentKey shown => shown
  | .unboundName name => s!"name '{name}' is not defined"
  | .noAttribute owner member => s!"{owner} has no attribute '{member}'"
  | .operands operation left right =>
    s!"unsupported operand type(s) for {operation}: " ++
      s!"'{left.operandName}' and '{right.operandName}'"
  | .notANativeSize => "Python int too large to convert to C ssize_t"
  | .notAnIndexSize => "cannot fit 'int' into an index-sized integer"
  | .repeatedTooLong => "repeated string is too long"
  | .outOfMemory => ""
  | .recursionLimit => "maximum recursion depth exceeded"
  | .file cause path => cause.message path
  | .unwritable kind => s!"Unable to convert an object of {kind.shown} to a TOML item"
  | .failed _ text => text

/-- A setting of the wrong kind. A value that cannot be shown hides the failure behind its own. -/
def ofSetting (key : String) (found : Value) (expected : String) : Fault :=
  if found.overlong then .tooManyDigits else .settingType key found expected

/-- A malformed template, or the failure to find the line of the marker. -/
def ofTemplate (reason : SpliceReason) (source : List Char) (position : Nat) : Fault :=
  match Template.locate? source position with
  | some location => .malformedTemplate reason position location
  | none => .outOfRange "list"

end Fault

namespace Value

/-- The shown form of a value, if its integers can be written. -/
def shown? (v : Value) : Except Fault String :=
  if v.overlong then .error .tooManyDigits else .ok v.shown

/-- The plain text of a value, if its integers can be written. -/
def plainText? (v : Value) : Except Fault String :=
  if v.overlong then .error .tooManyDigits else .ok v.plainText

end Value

end TypstMarkup
