import TypstMarkup.Text.Digit

/-!
Layouts of short texts and numbers in a field: a fill and an alignment, a sign, a width, separators
between groups of digits, a precision and a letter for the form. A layout is read from a format such
as `*^12,.2f`.
-/
namespace TypstMarkup.Text

inductive Alignment where
  | left | right | centre
  /-- The fill comes between the sign and the digits. -/
  | afterSign
deriving DecidableEq, Repr

def Alignment.ofChar? : Char → Option Alignment
  | '<' => some .left
  | '>' => some .right
  | '^' => some .centre
  | '=' => some .afterSign
  | _ => none

structure Layout where
  fill : Char := ' '
  alignment : Alignment
  /-- The sign asked for: a plus for all numbers, or a blank in place of the plus. -/
  sign : Option Char := none
  /-- Whether a negative zero loses its sign. -/
  dropsZeroSign : Bool := false
  /-- Whether the fuller form is asked for. -/
  full : Bool := false
  width : Nat := 0
  separator : Option Char := none
  precision : Option Nat := none
  form : Option Char := none
deriving DecidableEq, Repr

namespace Layout

inductive Refusal where
  | tooManyDigits
  | precisionMissing
  | twoSeparators
  | separatorMisfits (separator form : Char)
  | malformed
deriving DecidableEq, Repr

def readNumber (format : List Char) : Except Refusal (Option Nat × List Char) :=
  let digits := format.takeWhile fun c => (decimalValue? c).isSome
  match decimalNumber? digits with
  | none => .ok (none, format)
  | some n =>
    if 0x8000000000000000 ≤ n then .error .tooManyDigits
    else .ok (some n, format.drop digits.length)

def readAlignment (usual : Alignment) : List Char → Layout × Bool × Bool × List Char
  | c :: d :: rest =>
    match Alignment.ofChar? d, Alignment.ofChar? c with
    | some a, _ => ({ fill := c, alignment := a }, true, true, rest)
    | none, some a => ({ alignment := a }, false, true, d :: rest)
    | none, none => ({ alignment := usual }, false, false, c :: d :: rest)
  | [c] =>
    match Alignment.ofChar? c with
    | some a => ({ alignment := a }, false, true, [])
    | none => ({ alignment := usual }, false, false, [c])
  | [] => ({ alignment := usual }, false, false, [])

def readFlag (flag : Char) : List Char → Bool × List Char
  | c :: rest => if c = flag then (true, rest) else (false, c :: rest)
  | [] => (false, [])

def readSeparator (format : List Char) : Except Refusal (Option Char × List Char) :=
  match format with
  | ',' :: '_' :: _ | '_' :: ',' :: _ => .error .twoSeparators
  | ',' :: rest => .ok (some ',', rest)
  | '_' :: rest => .ok (some '_', rest)
  | format => .ok (none, format)

def allowsSeparator (separator : Char) : Char → Bool
  | 'd' | 'e' | 'f' | 'g' | 'E' | 'G' | 'F' | '%' => true
  | 'b' | 'o' | 'x' | 'X' => separator = '_'
  | _ => false

/-- Reads a layout with a usual alignment and a usual form. -/
def read (usual : Alignment) (usualForm : Option Char) (format : List Char) :
    Except Refusal Layout := do
  let (layout, fillGiven, alignmentGiven, rest) := readAlignment usual format
  let (sign, rest) := match rest with
    | '+' :: rest => (some '+', rest)
    | '-' :: rest => (some '-', rest)
    | ' ' :: rest => (some ' ', rest)
    | rest => (none, rest)
  let (dropsZeroSign, rest) := readFlag 'z' rest
  let (full, rest) := readFlag '#' rest
  -- Behind a fill, a zero is the first digit of the width.
  let (zero, rest) := if fillGiven then (false, rest) else readFlag '0' rest
  let (width, rest) ← readNumber rest
  let (separator, rest) ← readSeparator rest
  let (precision, rest) ← match rest with
    | '.' :: rest => do
      let (precision, rest) ← readNumber rest
      if precision.isNone then throw .precisionMissing
      pure (precision, rest)
    | rest => pure (none, rest)
  let form ← match rest with
    | [] => pure usualForm
    | [form] => pure (some form)
    | _ => throw .malformed
  match separator, form with
  | some s, some f => if !allowsSeparator s f then throw (.separatorMisfits s f)
  | _, _ => pure ()
  return { layout with
    fill := if zero then '0' else layout.fill
    alignment := if zero && !alignmentGiven && usual = .right then .afterSign else layout.alignment
    sign, dropsZeroSign, full, width := width.getD 0, separator, precision, form }

/-- Puts separators between groups of digits, both given from the right, with zeros in front up to a
width. -/
def groupedFrom (separator : Char) (size : Nat) : Nat → Nat → List Char → List Char
  | 0, _, digits => digits
  | fuel + 1, width, digits =>
    let length := min size (max (max digits.length width) 1)
    let group := digits.take length
    let written := group ++ List.replicate (length - group.length) '0'
    let rest := digits.drop length
    if rest.isEmpty && width ≤ length then written
    else written ++ separator :: groupedFrom separator size fuel (width - length - 1) rest

/-- Digits with separators between groups of a size, and zeros in front up to a width. -/
def grouped (separator : Option Char) (size width : Nat) (digits : List Char) : List Char :=
  match separator with
  | none => List.replicate (width - digits.length) '0' ++ digits
  | some separator =>
    (groupedFrom separator size (digits.length + width + 1) width digits.reverse).reverse

def text (l : Layout) (body : List Char) : List Char :=
  let body := match l.precision with
    | some n => body.take n
    | none => body
  let padding (n : Nat) := List.replicate n l.fill
  let missing := l.width - body.length
  match l.alignment with
  | .left | .afterSign => body ++ padding missing
  | .right => padding missing ++ body
  | .centre => padding (missing / 2) ++ body ++ padding (missing - missing / 2)

/-- Lays out a number: a sign, a mark of its base, digits in groups, and what follows them. -/
def number (l : Layout) (negative : Bool) (mark digits rest : List Char) (groupSize : Nat) :
    List Char :=
  let sign :=
    if negative then ['-']
    else match l.sign with
      | some '+' => ['+']
      | some ' ' => [' ']
      | _ => []
  let fixed := sign.length + mark.length + rest.length
  -- Zeros that fill the place after the sign are grouped with the digits.
  let zeros := if l.fill = '0' && l.alignment = .afterSign then l.width - fixed else 0
  let digits := if digits.isEmpty then [] else grouped l.separator groupSize zeros digits
  let missing := l.width - (fixed + digits.length)
  let padding (n : Nat) := List.replicate n l.fill
  let front := sign ++ mark
  match l.alignment with
  | .left => front ++ digits ++ rest ++ padding missing
  | .right => padding missing ++ front ++ digits ++ rest
  | .afterSign => front ++ padding missing ++ digits ++ rest
  | .centre =>
    padding (missing / 2) ++ front ++ digits ++ rest ++ padding (missing - missing / 2)

end Layout

end TypstMarkup.Text
