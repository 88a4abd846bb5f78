import TypstMarkup.Value.Indexing
import TypstMarkup.Value.Layout

/-!
Texts with directives that arguments fill. A directive is a percent sign, perhaps a key in brackets,
flags, a width, a precision and a letter; directives with keys look their values up, the others take
the arguments in order, and all arguments have to be taken.
-/
namespace TypstMarkup.Value

structure Directive where
  leftAligned : Bool := false
  plus : Bool := false
  blank : Bool := false
  full : Bool := false
  zeros : Bool := false
  width : Nat := 0
  precision : Option Nat := none
  letter : Char := 's'

/-- The arguments that are left, and the value that keys are looked up in. -/
structure Arguments where
  left : List Value
  lookup : Option Value := none

/-- The values whose items a key may name. -/
def hasKeys (v : Value) : Bool :=
  match v.core with
  | .list _ | .dict _ | .bytes _ | .range _ | .matrix _ => true
  | _ => false

/-- The arguments a value stands for: the items of a tuple, or the value itself. -/
def Arguments.ofValue (v : Value) : Arguments :=
  match v.core with
  | .tuple items => ⟨items, none⟩
  | _ => ⟨[v], if v.hasKeys then some v else none⟩

def Arguments.next? (a : Arguments) : Except Fault (Value × Arguments) :=
  match a.left with
  | v :: rest => .ok (v, { a with left := rest })
  | [] => .error (.failed .typeError "not enough arguments for format string")

/-- Reads a key up to its closing bracket, within which brackets may be nested. -/
def readKey : Nat → List Char → Option (List Char × List Char)
  | _, [] => none
  | depth, c :: rest =>
    if c = ')' then
      match depth with
      | 0 => some ([], rest)
      | depth + 1 => (readKey depth rest).map fun (key, rest) => (c :: key, rest)
    else
      (readKey (if c = '(' then depth + 1 else depth) rest).map fun (key, rest) => (c :: key, rest)

def readFlags (d : Directive) : List Char → Directive × List Char
  | '-' :: rest => readFlags { d with leftAligned := true } rest
  | '+' :: rest => readFlags { d with plus := true } rest
  | ' ' :: rest => readFlags { d with blank := true } rest
  | '#' :: rest => readFlags { d with full := true } rest
  | '0' :: rest => readFlags { d with zeros := true } rest
  | rest => (d, rest)

/-- Reads an amount: a number below a limit, or a star for the next argument, which has to fit a
word. -/
def readAmount (what word : String) (limit : Nat) (a : Arguments) (source : List Char) :
    Except Fault (Option Int × Arguments × List Char) :=
  match source with
  | '*' :: rest => do
    let (v, a) ← a.next?
    match v.int? with
    | some n =>
      if limit ≤ n || n < -limit then
        throw (.failed .overflow s!"Python int too large to convert to C {word}")
      return (some n, a, rest)
    | none => throw (.failed .typeError "* wants int")
  | source =>
    let digits := source.takeWhile Char.isDigit
    match Text.decimalNumber? digits with
    | none => .ok (none, a, source)
    | some n =>
      if limit ≤ n then .error (.failed .valueError s!"{what} too big")
      else .ok (some n, a, source.drop digits.length)

/-- Reads a directive after its percent sign and its key. -/
def readDirective (a : Arguments) (source : List Char) :
    Except Fault (Directive × Arguments × List Char) := do
  let (d, source) := readFlags {} source
  let (width, a, source) ← readAmount "width" "ssize_t" wordLimit a source
  let (precision, a, source) ← match source with
    | '.' :: source => do
      let (precision, a, source) ← readAmount "precision" "int" 0x80000000 a source
      pure (some ((precision.getD 0).toNat), a, source)
    | source => pure (none, a, source)
  let source := match source with
    | 'h' :: source | 'l' :: source | 'L' :: source => source
    | source => source
  match source with
  | [] => throw (.failed .valueError "incomplete format")
  | letter :: source =>
    let width := width.getD 0
    if 0x400000000 ≤ width.natAbs then throw .outOfMemory
    return ({ d with
      leftAligned := d.leftAligned || width < 0
      width := width.natAbs, precision, letter }, a, source)

/-- A text that is laid out for a directive: at the left or at the right of its field. -/
def Directive.text (d : Directive) (body : List Char) : List Char :=
  let layout : Text.Layout :=
    { alignment := if d.leftAligned then .left else .right, width := d.width }
  layout.text body

/-- A number that is laid out for a directive: a mark of its base, and its digits. -/
def Directive.number (d : Directive) (negative : Bool) (mark digits rest : List Char) : List Char :=
  let layout : Text.Layout :=
    { fill := if d.zeros && !d.leftAligned then '0' else ' '
      alignment := if d.leftAligned then .left else if d.zeros then .afterSign else .right
      sign := if d.plus then some '+' else if d.blank then some ' ' else none
      width := d.width }
  layout.number negative mark digits rest 3

def Directive.integer? (d : Directive) (v : Value) : Except Fault Int :=
  let misfit (what : String) : Except Fault Int :=
    .error (.failed .typeError s!"%{d.letter} format: {what}, not {v.kind.operandName}")
  if d.letter = 'x' || d.letter = 'X' || d.letter = 'o' then
    match v.int? with
    | some n => .ok n
    | none => misfit "an integer is required"
  else
    match v.core with
    | .bool _ | .int _ | .flags _ | .float _ | .decimal _ | .fraction _ => v.toInteger?
    | _ => misfit "a real number is required"

def floatOf? (v : Value) : Except Fault Binary64 :=
  match v.core with
  | .bool _ | .int _ | .flags _ | .float _ | .decimal _ | .fraction _ => v.toFloating?
  | _ => .error (.failed .typeError s!"must be real number, not {v.kind.operandName}")

def characterOf? (v : Value) : Except Fault (List Char) :=
  let misfit : Except Fault (List Char) := .error (.failed .typeError "%c requires int or char")
  match v.text?, v.int? with
  | some text, _ => if text.length = 1 then .ok text.toList else misfit
  | none, some n =>
    if n < 0 || 0x110000 ≤ n then .error (.failed .overflow "%c arg not in range(0x110000)")
    else .ok [Char.ofNat n.toNat]
  | none, none => misfit

/-- The failure for a letter of no directive, at a place in its text. -/
def unknownLetter (letter : Char) (place : Nat) : Fault :=
  let shown := if 31 < letter.toNat && letter.toNat < 128 then letter else '?'
  badFormat s!"unsupported format character '{shown}' (0x{String.ofList
    (Nat.toDigits 16 letter.toNat)}) at index {place}"

/-- A value as a directive writes it; `place` is where its letter stands. -/
def Directive.written? (d : Directive) (v : Value) (place : Nat) : Except Fault (List Char) := do
  let textual (text : String) : Except Fault (List Char) :=
    return d.text (match d.precision with
      | some n => text.toList.take n
      | none => text.toList)
  match d.letter with
  | 's' => textual (← v.plainText?)
  | 'r' => textual (← v.shown?)
  | 'a' => textual (Text.asciiOnly (← v.shown?))
  | 'c' => return d.text (← characterOf? v)
  | 'd' | 'i' | 'u' | 'x' | 'X' | 'o' =>
    let n ← d.integer? v
    let form := if d.letter = 'i' || d.letter = 'u' then 'd' else d.letter
    if form = 'd' && TypstMarkup.overlong n then throw .tooManyDigits
    match integerDigits? form d.full n.natAbs with
    | some (mark, digits, _) =>
      return d.number (n < 0) mark (Binary64.padFront (d.precision.getD 0) digits) []
    | none => throw (unknownLetter d.letter place)
  | letter =>
    match if letter = '%' || letter = 'n' then none else roundedForm? letter with
    | some (form, capitals) =>
      let x ← floatOf? v
      let (whole, rest) := floatParts x form (d.precision.getD 6) d.full capitals
      return d.number (x.isNegative && x != .nan true) [] whole rest
    | none => throw (unknownLetter letter place)

/-- Fills directives within a budget of their number. `length` is the length of the whole text. -/
def filledFrom (length : Nat) : Nat → Arguments → List Char → Except Fault (List Char)
  | 0, _, source => .ok source
  | budget + 1, a, source => do
    let plain := source.takeWhile (· != '%')
    match source.drop plain.length with
    | [] =>
      if !a.left.isEmpty && a.lookup.isNone then
        throw (.failed .typeError "not all arguments converted during string formatting")
      return plain
    | _ :: '%' :: rest => return plain ++ '%' :: (← filledFrom length budget a rest)
    | _ :: rest =>
      let (a, rest) ← match rest with
        | '(' :: rest => do
          let some lookup := a.lookup | throw (.failed .typeError "format requires a mapping")
          let some (key, rest) := readKey 0 rest | throw (badFormat "incomplete format key")
          pure ({ a with left := [← lookup.item? (.str (String.ofList key))] }, rest)
        | rest => pure (a, rest)
      let (d, a, rest) ← readDirective a rest
      let (v, a) ← a.next?
      let text ← d.written? v (length - rest.length - 1)
      return plain ++ text ++ (← filledFrom length budget a rest)

def filled? (template : List Char) (a : Arguments) : Except Fault (List Char) :=
  filledFrom template.length (template.length + 1) a template

end TypstMarkup.Value
