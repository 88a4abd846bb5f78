import TypstMarkup.Number.Binary64
import TypstMarkup.Number.Notation
import TypstMarkup.Number.Based

/-!
Dates and times. They are read by the places of their digits alone: what stands between the digits
does not matter, as long as a dash comes somewhere after the first character.
-/
namespace TypstMarkup.Toml

structure Day where
  year : Nat
  month : Nat
  day : Nat

structure Clock where
  hour : Nat
  minute : Nat
  second : Nat
  microsecond : Nat

/-- A day, a time of day, or both, perhaps with an offset. -/
inductive Moment where
  | day (d : Day)
  | clock (c : Clock)
  | instant (d : Day) (c : Clock) (hasOffset : Bool)

def isLeapYear (year : Nat) : Bool :=
  year % 4 == 0 && (year % 100 != 0 || year % 400 == 0)

def daysIn (year month : Nat) : Nat :=
  match month with
  | 2 => if isLeapYear year then 29 else 28
  | 4 | 6 | 9 | 11 => 30
  | _ => 31

/-- The day with the given numbers, if there is one in the years 1 to 9999. -/
def Day.ofNumbers? (year month day : Int) : Option Day :=
  if 1 ≤ year && year ≤ 9999 && 1 ≤ month && month ≤ 12 && 1 ≤ day &&
      day ≤ daysIn year.toNat month.toNat then
    some ⟨year.toNat, month.toNat, day.toNat⟩
  else none

/-- The time of day with the given numbers, if there is one. -/
def Clock.ofNumbers? (hour minute second microsecond : Int) : Option Clock :=
  if 0 ≤ hour && hour < 24 && 0 ≤ minute && minute < 60 && 0 ≤ second && second < 60 &&
      0 ≤ microsecond && microsecond < 1000000 then
    some ⟨hour.toNat, minute.toNat, second.toNat, microsecond.toNat⟩
  else none

/-! ### Shown form -/

/-- The numbers of a time of day without zeros at their end; hours and minutes stay. -/
def Clock.numbers (c : Clock) : List Nat :=
  [c.hour, c.minute] ++
    if c.microsecond != 0 then [c.second, c.microsecond]
    else if c.second != 0 then [c.second] else []

def Day.numbers (d : Day) : List Nat :=
  [d.year, d.month, d.day]

def numbersText (numbers : List Nat) : String :=
  ", ".intercalate (numbers.map toString)

namespace Moment

def kindName : Moment → String
  | .day _ => "date"
  | .clock _ => "time"
  | .instant _ _ _ => "datetime"

/-- The shown form of a moment. An offset shows only that there is one. -/
def shown (m : Moment) : String :=
  let numbers := match m with
    | .day d => numbersText d.numbers
    | .clock c => numbersText c.numbers
    | .instant d c false => numbersText (d.numbers ++ c.numbers)
    | .instant d c true => numbersText (d.numbers ++ c.numbers) ++ ", tzinfo=<offset>"
  s!"datetime.{m.kindName}({numbers})"

end Moment

/-! ### Written form -/

/-- A number with zeros in front up to a width. -/
def places (width n : Nat) : List Char :=
  Binary64.padFront width (Binary64.digitText n)

def Day.written (d : Day) : List Char :=
  places 4 d.year ++ '-' :: places 2 d.month ++ '-' :: places 2 d.day

/-- The written form of a time of day. A fraction of a second has six places. -/
def Clock.written (c : Clock) : List Char :=
  places 2 c.hour ++ ':' :: places 2 c.minute ++ ':' :: places 2 c.second ++
    if c.microsecond == 0 then [] else '.' :: places 6 c.microsecond

/-- The written form of a moment. An offset is not kept, so an instant that has one is written as
universal time. -/
def Moment.written : Moment → List Char
  | .day d => d.written
  | .clock c => c.written
  | .instant d c hasOffset => d.written ++ 'T' :: c.written ++ if hasOffset then ['Z'] else []

/-! ### Reading -/

def slice (text : List Char) (first last : Nat) : List Char :=
  (text.drop first).take (last - first)

def numberAt? (text : List Char) (first last : Nat) : Option Int :=
  Based.ofText? 10 (slice text first last)

/-- Whether a text can be read as an offset: a sign, two places for hours, one for a separator and
two for minutes, or a letter for none. -/
def isOffset (text : List Char) : Bool :=
  text == ['Z'] || (numberAt? text 1 3).isSome && (numberAt? text 4 6).isSome

/-- The microseconds of a fraction of a second; places beyond the sixth are cut off. -/
def microseconds? (places : List Char) : Option Int := do
  let n ← Based.ofText? 10 places
  if places.length ≤ 6 then return n * tenTo (6 - places.length)
  else
    let x := (Binary64.ofRat n).mul (.ofDecimal false 1 (6 - (places.length : Int)))
    return (x.toRat?.map Rat.floor).getD 0

/-- Splits the end of an instant, after the point, into a fraction of a second and an offset. -/
def splitOffset (text : List Char) : List Char × Option (List Char) :=
  if text.getLast?.any fun c => c == 'Z' || c == 'z' then (text.dropLast, some ['Z'])
  else
    let sign := if text.contains '+' then '+' else '-'
    match text.span (· != sign) with
    | (places, []) => (places, none)
    | (places, offset) => (places, some offset)

/-- The microseconds of an instant, and whether it has an offset. An offset that cannot be read is
none, and one that is wrong hides the fraction before it. -/
def instantEnd (text : List Char) : Int × Bool :=
  match text.drop 19 with
  | [] => (0, false)
  | '.' :: rest =>
    let (places, offset) := splitOffset rest
    if offset.all isOffset then
      match microseconds? places with
      | some n => (n, offset.isSome)
      | none => (0, false)
    else (0, false)
  | offset => (0, isOffset offset)

def dayAt? (text : List Char) : Option Day := do
  Day.ofNumbers? (← numberAt? text 0 4) (← numberAt? text 5 7) (← numberAt? text 8 10)

def Moment.ofText? (text : List Char) : Option Moment := do
  let (microsecond, hasOffset) := instantEnd text
  guard ((text.drop 1).contains '-')
  let d ← dayAt? text
  if text.length == 10 then return .day d
  else
    let c ← Clock.ofNumbers? (← numberAt? text 11 13) (← numberAt? text 14 16)
      (← numberAt? text 17 19) microsecond
    return .instant d c hasOffset

/-- The numbers of the time of day that a text starts with: three numbers of two digits, separated
by colons, and three to six digits after a point, which count microseconds. -/
def clockNumbers? (text : List Char) : Option (Nat × Nat × Nat × Nat) := do
  let number (digits : List Char) : Option Nat :=
    if digits.all Char.isDigit then (Based.ofText? 10 digits).map Int.toNat else none
  match text with
  | a :: b :: ':' :: c :: d :: ':' :: e :: f :: rest =>
    let places := match rest with
      | '.' :: rest => (rest.takeWhile Char.isDigit).take 6
      | _ => []
    return (← number [a, b], ← number [c, d], ← number [e, f],
      ← if places.length < 3 then some 0 else number places)
  | _ => none

end TypstMarkup.Toml
