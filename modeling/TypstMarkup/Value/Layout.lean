import TypstMarkup.Number.Rounded
import TypstMarkup.Text.Layout
import TypstMarkup.Value.Conversion

/-!
Values in the layout of a format. Texts, integers, floating point numbers and decimals have
formats of their own; all other values have none but the empty one, which gives their plain text.
-/
namespace TypstMarkup.Value

open Text (Layout)

def badFormat (text : String) : Fault := .failed .valueError text

def shownForm (form : Char) : String :=
  if 32 < form.toNat && form.toNat < 128 then String.singleton form
  else "\\x" ++ String.ofList (Nat.toDigits 16 form.toNat)

/-- The failure for a form that a kind of values does not have. -/
def unknownForm (form : Char) (kind : Kind) : Fault :=
  badFormat s!"Unknown format code '{shownForm form}' for object of type '{kind.name}'"

def ofRefusal (format : List Char) (kind : Kind) : Layout.Refusal → Fault
  | .tooManyDigits => badFormat "Too many decimal digits in format string"
  | .precisionMissing => badFormat "Format specifier missing precision"
  | .twoSeparators => badFormat "Cannot specify both ',' and '_'."
  | .separatorMisfits separator form =>
    badFormat s!"Cannot specify '{separator}' with '{shownForm form}'."
  | .malformed =>
    badFormat s!"Invalid format specifier '{String.ofList format}' for object of type '{kind.name}'"

/-- What a layout for texts must not ask for. -/
def textMisfit? (l : Layout) : Option String :=
  if l.sign = some ' ' then some "Space not allowed"
  else if l.sign.isSome then some "Sign not allowed"
  else if l.dropsZeroSign then some "Negative zero coercion (z) not allowed"
  else if l.full then some "Alternate form (#) not allowed"
  else if l.alignment = .afterSign then some "'=' alignment not allowed"
  else none

def layoutText (l : Layout) (body : List Char) (kind : Kind) : Except Fault (List Char) :=
  match l.form, textMisfit? l with
  | some 's', some misfit | none, some misfit =>
    .error (badFormat (misfit ++ " in string format specifier"))
  | some 's', none | none, none => .ok (l.text body)
  | some form, _ => .error (unknownForm form kind)

/-- The digits of an integer and the mark of their base, in a form for integers. -/
def integerDigits? (form : Char) (full : Bool) (n : Nat) : Option (List Char × List Char × Nat) :=
  let marked (mark : Char) := if full then ['0', mark] else []
  match form with
  | 'd' | 'n' => some ([], Nat.toDigits 10 n, 3)
  | 'b' => some (marked 'b', Nat.toDigits 2 n, 4)
  | 'o' => some (marked 'o', Nat.toDigits 8 n, 4)
  | 'x' => some (marked 'x', Nat.toDigits 16 n, 4)
  | 'X' => some (marked 'X', (Nat.toDigits 16 n).map Char.toUpper, 4)
  | _ => none

/-- The form for floating point numbers of a letter, and whether its letters are capitals. -/
def roundedForm? : Char → Option (Binary64.RoundedForm × Bool)
  | 'f' | '%' => some (.fixed, false)
  | 'F' => some (.fixed, true)
  | 'e' => some (.scientific, false)
  | 'E' => some (.scientific, true)
  | 'g' | 'n' => some (.general false, false)
  | 'G' => some (.general false, true)
  | _ => none

/-- A floating point number without its sign: the digits of its whole part, and all that follows. -/
def floatParts (x : Binary64) (form : Binary64.RoundedForm) (precision : Nat)
    (full capitals : Bool) :
    List Char × List Char :=
  let (whole, rest) := match x.abs with
    | .finite _ significand exponent =>
      let (n, d) := Binary64.magnitude significand exponent
      Binary64.roundedText form precision full n d
    | .infinite _ => ([], ['i', 'n', 'f'])
    | .nan _ => ([], ['n', 'a', 'n'])
  (whole, if capitals then rest.map Char.toUpper else rest)

def showsSign (l : Layout) (x : Binary64) (whole rest : List Char) : Bool :=
  match x with
  | .nan _ => false
  | x => x.isNegative && !(l.dropsZeroSign &&
      (whole ++ rest.takeWhile fun c => c != 'e' && c != 'E').all fun c => c == '0' || c == '.')

def layoutFloat (l : Layout) (x : Binary64) (kind : Kind) : Except Fault (List Char) :=
  let finish (x : Binary64) (parts : List Char × List Char) (suffix : List Char) :=
    .ok (l.number (showsSign l x parts.1 parts.2) [] parts.1 (parts.2 ++ suffix) 3)
  match l.form, l.precision with
  | none, none =>
    let text := x.abs.written true
    let whole := text.takeWhile Char.isDigit
    let rest := text.drop whole.length
    finish x (whole,
      if l.full && !whole.isEmpty && !rest.contains '.' then '.' :: rest else rest) []
  | none, some precision => finish x (floatParts x (.general true) precision l.full false) []
  | some form, precision =>
    match roundedForm? form with
    | none => .error (unknownForm form kind)
    | some (rounded, capitals) =>
      let percent := form = '%'
      let x := if percent then x.mul (Binary64.ofRat 100) else x
      finish x (floatParts x rounded (precision.getD 6) l.full capitals)
        (if percent then ['%'] else [])

def layoutWhole (l : Layout) (n : Int) (kind : Kind) : Except Fault (List Char) := do
  let form := l.form.getD 'd'
  if form ≠ 'c' && (integerDigits? form false 0).isNone then throw (unknownForm form kind)
  if l.precision.isSome then throw (badFormat "Precision not allowed in integer format specifier")
  if l.dropsZeroSign then
    throw (badFormat "Negative zero coercion (z) not allowed in integer format specifier")
  if form = 'c' then
    if l.sign.isSome then throw (badFormat "Sign not allowed with integer format specifier 'c'")
    if l.full then
      throw (badFormat "Alternate form (#) not allowed with integer format specifier 'c'")
    if !fitsWord n then throw (.failed .overflow "Python int too large to convert to C long")
    if n < 0 || 0x110000 ≤ n then throw (.failed .overflow "%c arg not in range(0x110000)")
    return l.number false [] [] [Char.ofNat n.toNat] 3
  if (form = 'd' || form = 'n') && TypstMarkup.overlong n then throw .tooManyDigits
  match integerDigits? form l.full n.natAbs with
  | some (mark, digits, size) => return l.number (n < 0) mark digits [] size
  | none => throw (unknownForm form kind)

/-- An integer in a layout. In a layout for floating point numbers it is one of them. -/
def layoutInteger (l : Layout) (n : Int) (kind : Kind) : Except Fault (List Char) := do
  let form := l.form.getD 'd'
  if (roundedForm? form).isSome && form ≠ 'n' then layoutFloat l (← floatOfInt? n) kind
  else layoutWhole l n kind

/-- A decimal in a layout: as it is, or with places after its point. -/
def layoutDecimal (l : Layout) (d : Decimal) (kind : Kind) : Except Fault (List Char) :=
  let percent := l.form = some '%'
  match l.form, l.precision, d with
  | none, none, d =>
    let text := d.toText.toList
    let bare := if text.head? = some '-' then text.drop 1 else text
    let whole := bare.takeWhile Char.isDigit
    .ok (l.number (text.head? = some '-') [] whole (bare.drop whole.length) 3)
  | some form, precision, .finite negative coefficient exponent =>
    if form = 'f' || form = 'F' || percent then
      let exponent := if percent then exponent + 2 else exponent
      let places := precision.getD (-exponent).toNat
      let (whole, part) := Binary64.fixedDigits (coefficient * tenTo exponent.toNat)
        (tenTo (-exponent).toNat) places
      .ok (l.number negative [] whole
        (Binary64.afterPoint false part ++ if percent then ['%'] else []) 3)
    else .error (unknownForm form kind)
  | _, _, _ => .error (badFormat "invalid format string")

def checkWidth (l : Layout) : Except Fault Unit :=
  if 0x400000000 ≤ max l.width (l.precision.getD 0) then .error .outOfMemory else .ok ()

def laidOut? (v : Value) (format : List Char) : Except Fault String := do
  if format.isEmpty then v.plainText?
  else
    let kind := v.kind
    let read (usual : Text.Alignment) (form : Option Char) (kind : Kind) : Except Fault Layout := do
      let l ← (Layout.read usual form format).mapError (ofRefusal format kind)
      checkWidth l
      return l
    let written (text : Except Fault (List Char)) : Except Fault String :=
      text.map String.ofList
    match v.core with
    | .str text | .markup text =>
      written (layoutText (← read .left (some 's') kind) text.toList kind)
    | .char c => written (layoutText (← read .left (some 's') kind) [c] kind)
    | .mode m => written (layoutText (← read .left (some 's') .str) m.name.toList .str)
    | .float x => written (layoutFloat (← read .right none kind) x kind)
    | .decimal d => written (layoutDecimal (← read .right none kind) d kind)
    | core =>
      match core.int? with
      | some n => written (layoutInteger (← read .right (some 'd') kind) n kind)
      | none => throw (.failed .typeError
          s!"unsupported format string passed to {kind.name}.__format__")

end TypstMarkup.Value
