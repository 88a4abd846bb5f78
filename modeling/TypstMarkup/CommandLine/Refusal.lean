import TypstMarkup.Fault

/-!
How a command line ends without success. Every refusal has a kind with an exit status of its own,
and failures of the library become refusals; the failures that are left end the program.
-/
namespace TypstMarkup.CommandLine

inductive RefusalKind where
  | usage
  | data
  | compilerMissing
  | file
  | configuration
  | unexpected
deriving DecidableEq, Repr

def RefusalKind.status : RefusalKind → Nat
  | .usage => 64
  | .data => 65
  | .compilerMissing => 69
  | .file => 74
  | .configuration => 78
  | .unexpected => 255

structure Refusal where
  kind : RefusalKind
  message : String
deriving DecidableEq, Repr

def kindOf? : Category → Option RefusalKind
  | .malformedTemplate | .unsupportedKind | .settingType => some .data
  | .configuration => some .configuration
  | .compilerMissing => some .compilerMissing
  | .compilerFailed | .library => some .unexpected
  | .fileMissing | .isDirectory | .notDirectory | .permission | .system => some .file
  | _ => none

def refusal? (f : Fault) : Option Refusal :=
  (kindOf? f.category).map fun kind => ⟨kind, f.message⟩

/-- Whether a failure while a template is filled is one of its data. -/
def isEvaluationFailure : Category → Bool
  | .unsupportedKind | .settingType | .typeError | .valueError | .nameError | .attributeError
  | .indexError | .keyError | .zeroDivision | .overflow | .invalidDecimal | .unwritable => true
  | _ => false

end TypstMarkup.CommandLine
