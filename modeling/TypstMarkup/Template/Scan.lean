import TypstMarkup.Expression.Check
import TypstMarkup.Template.Closing
import TypstMarkup.Text.Blank

/-!
The division of a template into literal text and splices. A splice starts at a backslash before an
opening bracket. Backslashes in front of it are halved, and an odd number of them makes the marker
literal; backslashes that no bracket follows stand for themselves.
-/
namespace TypstMarkup.Template

open Expression (Expr Objection)

/-- The name that a splice calls: the constructor of finished source. -/
def constructorName : String := "__typstry_splice__"

/-- A splice: its contents as written, the position of its marker, and the call it makes. -/
structure Splice where
  contents : List Char
  position : Nat
  call : Expr

inductive Segment where
  | literal (text : List Char)
  | splice (s : Splice)

/-- Why a template cannot be divided. -/
inductive ScanFault where
  | malformed (reason : SpliceReason) (position : Nat)
  | refused (objection : Objection) (line : Nat)

def ScanFault.toFault (source : List Char) : ScanFault → Fault
  | .malformed reason position => .ofTemplate reason source position
  | .refused objection line => .refusedSplice objection.message line

/-- The expression that the contents of a splice stand for. -/
def spliceSource (contents : List Char) : List Char :=
  constructorName.toList ++ '(' :: contents ++ [')']

/-- Whether an expression is a call with exactly one argument, not starred, and settings. -/
def hasOneValue : Expr → Bool
  | .call _ [e] _ _ => !e.isStarred
  | _ => false

def Splice.ofContents (contents : List Char) (position : Nat) : Except ScanFault Splice :=
  if contents.all Text.isBlank then .error (.malformed .empty position)
  else
    match Expression.parse? (spliceSource contents) with
    | none => .error (.malformed (.invalid (String.ofList contents)) position)
    | some call =>
      if hasOneValue call then
        match Expression.objection? call with
        | some (objection, line) => .error (.refused objection line)
        | none => .ok ⟨contents, position, call⟩
      else .error (.malformed (.notOneValue (String.ofList contents)) position)

def prependText (text : List Char) (segments : List Segment) : List Segment :=
  match text, segments with
  | [], segments => segments
  | text, .literal after :: rest => .literal (text ++ after) :: rest
  | text, segments => .literal text :: segments

def backslashes (count : Nat) : List Char :=
  List.replicate count '\\'

/-- Divides the source from a position on, where `pending` backslashes have just been read and the
next `skip` characters belong to a splice. -/
def scanFrom : Nat → Nat → Nat → List Char → Except ScanFault (List Segment)
  | _, pending, _, [] => .ok (prependText (backslashes pending) [])
  | position, _, skip + 1, _ :: rest => scanFrom (position + 1) 0 skip rest
  | position, pending, 0, c :: rest =>
    if c = '\\' then scanFrom (position + 1) (pending + 1) 0 rest
    else if c = '(' ∧ 0 < pending then
      -- Two backslashes stand for one, and one that is left over makes a marker.
      let before := backslashes ((pending - 1) / 2)
      if pending % 2 = 0 then
        (scanFrom (position + 1) 0 0 rest).map (prependText (before ++ ['\\', '(']))
      else
        match closing rest with
        | .error reason => .error (.malformed reason (position - 1))
        | .ok (contents, _) => do
          let splice ← Splice.ofContents contents (position - 1)
          let segments ← scanFrom (position + 1) 0 (contents.length + 1) rest
          return prependText before (.splice splice :: segments)
    else (scanFrom (position + 1) 0 0 rest).map (prependText (backslashes pending ++ [c]))

def scan (source : List Char) : Except ScanFault (List Segment) :=
  scanFrom 0 0 0 source

def splices (segments : List Segment) : List Splice :=
  segments.filterMap fun
    | .splice s => some s
    | .literal _ => none

end TypstMarkup.Template

namespace TypstMarkup

/-- A template: its source and the segments it divides into. -/
structure Template where
  source : List Char
  segments : List Template.Segment

namespace Template

def ofSource? (source : List Char) : Except Fault Template :=
  match scan source with
  | .ok segments => .ok ⟨source, segments⟩
  | .error f => .error (f.toFault source)

def shown (t : Template) : String :=
  "Template(" ++ Text.quotedString (String.ofList t.source) ++ ")"

/-- Whether two templates have the same source. -/
def same (t u : Template) : Bool :=
  t.source == u.source

end Template

end TypstMarkup
