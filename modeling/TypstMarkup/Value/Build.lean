import TypstMarkup.Pattern.Syntax
import TypstMarkup.Value.Conversion
import TypstMarkup.Value.Equality
import TypstMarkup.Value.Items

/-!
Building values out of parts that may not fit: a character out of a text, a fraction out of a
denominator that may be zero, a progression out of a step that may be zero, and so on.
-/
namespace TypstMarkup.Value

def ofSingle? (v : Value) : Except Fault Value := do
  if (← v.length?) != 1 then throw (.notOneCharacter (← v.shown?))
  match v.text?.map String.toList with
  | some [c] => return .char c
  | _ => throw (.failed .typeError s!"a character cannot be made of '{v.kind.operandName}'")

def ofRatio? (numerator denominator : Int) : Except Fault Value :=
  if denominator = 0 then .error (.failed .zeroDivision s!"Fraction({numerator}, 0)")
  else
    let q := mkRat numerator denominator.natAbs
    .ok (.fraction (if denominator < 0 then -q else q))

def ofBounds? (start stop step : Int) : Except Fault Value :=
  if h : step = 0 then .error .zeroStep else .ok (.range ⟨start, stop, step, h⟩)

def ofDecimalText? (text : String) : Except Fault Value :=
  match Decimal.ofText? text.toList with
  | some d => .ok (.decimal d)
  | none => .error (.failed .invalidDecimal "[<class 'decimal.ConversionSyntax'>]")

def ofPlain? (v : Value) : Except Fault Value :=
  v.plainText?.map .verbatim

/-- The matrix whose rows are the items of the items of a value. -/
def ofRows? (v : Value) : Except Fault Value :=
  v.matrixRows?.map .matrix

def addMember (members : List Value) (v : Value) : List Value :=
  if members.any fun w => w.same v then members else members ++ [v]

mutual

/-- Whether a value may be a key or a member of a set: nothing in it can be changed. -/
def hashable? : Value → Except Fault Unit
  | .list _ => .error (.unhashable .list)
  | .set _ => .error (.unhashable .set)
  | .dict _ => .error (.unhashable .dict)
  | .tuple items => hashableAll? items
  | .matrix rows => hashableRows? rows
  | .object _ (some v) _ => hashable? v
  | _ => .ok ()

/-- Whether all items may be members of a set; the first that may not is reported. -/
def hashableAll? : List Value → Except Fault Unit
  | [] => .ok ()
  | v :: rest => do hashable? v; hashableAll? rest

/-- Whether all elements of a matrix may be members of a set. -/
def hashableRows? : List (List Value) → Except Fault Unit
  | [] => .ok ()
  | row :: rest => do hashableAll? row; hashableRows? rest

end

def ofMembers? (items : List Value) : Except Fault Value := do
  for v in items do v.hashable?
  return .set (items.foldl addMember [])

def putKey (entries : List (Value × Value)) (key v : Value) : List (Value × Value) :=
  match entries with
  | [] => [(key, v)]
  | (k, w) :: rest => if k.same key then (k, v) :: rest else (k, w) :: putKey rest key v

def ofEntries? (entries : List (Value × Value)) : Except Fault Value := do
  for entry in entries do entry.1.hashable?
  return .dict (entries.foldl (fun d entry => putKey d entry.1 entry.2) [])

end TypstMarkup.Value

namespace TypstMarkup.Pattern

def letters (f : PatternFlags) : List Char :=
  (if f.ignoreCase then ['i'] else []) ++ (if f.multiLine then ['m'] else []) ++
    (if f.dotAll then ['s'] else []) ++ (if f.verbose then ['x'] else []) ++
    (if f.ascii then ['a'] else []) ++ (if f.unicode then ['u'] else [])

def ofLetters (options : List Char) : PatternFlags where
  ignoreCase := options.contains 'i'
  multiLine := options.contains 'm'
  dotAll := options.contains 's'
  verbose := options.contains 'x'
  ascii := options.contains 'a'
  unicode := options.contains 'u'

/-- The failure that an objection to a source causes. In a source of several lines the place is
given by line and column, too. -/
def Objection.toFault (source : List Char) : Objection → Fault
  | .malformed reason none => .failed .badPattern reason
  | .malformed reason (some position) =>
    let before := source.take position
    let line := before.count '\n' + 1
    let column := (before.reverse.takeWhile (· != '\n')).length + 1
    .failed .badPattern <| s!"{reason} at position {position}" ++
      if source.contains '\n' then s!" (line {line}, column {column})" else ""
  | .tooManyDigits count => .tooManyDigitsToRead count
  | .tooManyRepetitions => .failed .overflow "the repetition number is too large"
  | .options reason => .failed .valueError reason

/-- A regular expression over text. The options that its source sets belong to it. -/
def ofText? (source : String) (flags : PatternFlags) : Except Fault Pattern :=
  match read true (letters flags) source.toList with
  | .ok options => .ok (.text source { ofLetters options with unicode := false })
  | .error objection => .error (objection.toFault source.toList)

def ofBytes? (source : List UInt8) (flags : PatternFlags) : Except Fault Pattern :=
  let characters := source.map fun byte => Char.ofNat byte.toNat
  match read false (letters flags) characters with
  | .ok options => .ok (.bytes source (ofLetters options))
  | .error objection => .error (objection.toFault characters)

end TypstMarkup.Pattern
