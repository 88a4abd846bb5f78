import TypstMarkup.Number.Power
import TypstMarkup.Text.Blank
import TypstMarkup.Text.Digit

/-!
Integers as they are written in a base. Blanks may stand around the number and a sign in front of
it, the base may be announced by a zero and a letter, and single underscores may separate the
digits.
-/
namespace TypstMarkup.Based

/-- The base that a letter after a zero announces. -/
def announced? (letter : Char) : Option Nat :=
  match letter with
  | 'x' | 'X' => some 16
  | 'o' | 'O' => some 8
  | 'b' | 'B' => some 2
  | _ => none

def digitValue? (c : Char) : Option Nat :=
  match Text.decimalValue? c with
  | some value => some value
  | none =>
    if 'a' ≤ c && c ≤ 'f' then some (c.toNat - 0x61 + 10)
    else if 'A' ≤ c && c ≤ 'F' then some (c.toNat - 0x41 + 10)
    else none

/-- The number that digits continue; `afterDigit` says whether a digit comes directly before. -/
def continue? (base : Nat) (afterDigit : Bool) (total : Nat) : List Char → Option Nat
  | [] => if afterDigit then some total else none
  | '_' :: rest => if afterDigit then continue? base false total rest else none
  | c :: rest =>
    match digitValue? c with
    | some value => if value < base then continue? base true (total * base + value) rest else none
    | none => none

/-- The most digits that a number in a base other than a power of two may have. -/
def mostDigits : Nat := 4300

/-- The number of an unsigned text without an announced base. -/
def digits? (base : Nat) (text : List Char) : Option Nat :=
  if base == 10 && mostDigits < text.countP (fun c => c != '_') then none
  else continue? base false 0 text

/-- The number of an unsigned text in a base; one underscore may follow an announcement. -/
def unsigned? (base : Nat) (text : List Char) : Option Nat :=
  match text with
  | [] | [_] => digits? base text
  | zero :: letter :: rest =>
    if Text.decimalValue? zero == some 0 && announced? letter == some base then
      match rest with
      | '_' :: rest => digits? base rest
      | rest => digits? base rest
    else digits? base text

/-- The number of an unsigned text whose base is announced, and ten otherwise. Without an
announcement only zero starts with a zero. -/
def anyBase? (text : List Char) : Option Nat :=
  match text with
  | [] | [_] => digits? 10 text
  | zero :: letter :: _ =>
    if Text.decimalValue? zero == some 0 then
      match announced? letter with
      | some base => unsigned? base text
      | none => (digits? 10 text).filter (· == 0)
    else digits? 10 text

/-- Reads a text as a sign and an unsigned number, blanks around it ignored. -/
def signed? (unsigned? : List Char → Option Nat) (text : List Char) : Option Int :=
  match Text.strip text with
  | '-' :: rest => (unsigned? rest).map fun n => -(n : Int)
  | '+' :: rest => (unsigned? rest).map fun n => (n : Int)
  | rest => (unsigned? rest).map fun n => (n : Int)

def ofText? (base : Nat) (text : List Char) : Option Int :=
  signed? (unsigned? base) text

/-- The integer that a text stands for in the base it announces. -/
def ofAnyBase? (text : List Char) : Option Int :=
  signed? anyBase? text

end TypstMarkup.Based
