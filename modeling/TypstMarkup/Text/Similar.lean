/-!
Likeness of words, to propose a name for a misspelled one. Two words share their longest common
block and, on either side of it, what the parts there share; a word is like another if the share
is at least three fifths of both.
-/
namespace TypstMarkup.Text

def sharedStart : List Char → List Char → Nat
  | a :: as, b :: bs => if a = b then sharedStart as bs + 1 else 0
  | _, _ => 0

structure Block where
  first : Nat := 0
  second : Nat := 0
  length : Nat := 0
deriving DecidableEq, Repr

/-- The blocks that begin at a pair of places, in the order of the places. -/
def blocks (a b : List Char) : List Block :=
  (List.range a.length).flatMap fun i =>
    (List.range b.length).map fun j => ⟨i, j, sharedStart (a.drop i) (b.drop j)⟩

def longestBlock (a b : List Char) : Block :=
  (blocks a b).foldl (fun best block => if best.length < block.length then block else best) {}

def shared (a b : List Char) : Nat :=
  match longestBlock a b with
  | ⟨first, second, length⟩ =>
    if _ : 0 < length ∧ first < a.length then
      shared (a.take first) (b.take second) + length +
        shared (a.drop (first + length)) (b.drop (second + length))
    else 0
termination_by a.length
decreasing_by
  · rw [List.length_take]; omega
  · rw [List.length_drop]; omega

/-- A name with its likeness to a word: twice the share of both over their whole length. -/
structure Likeness where
  name : String
  share : Nat
  whole : Nat
deriving DecidableEq, Repr

namespace Likeness

def between (word name : String) : Likeness :=
  ⟨name, 2 * shared name.toList word.toList, name.length + word.length⟩

def isClose (l : Likeness) : Bool :=
  3 * l.whole ≤ 5 * l.share

/-- Whether a likeness comes before another: the closer first, of equal ones the later name. -/
def before (a b : Likeness) : Bool :=
  b.share * a.whole < a.share * b.whole ||
    (b.share * a.whole == a.share * b.whole && b.name ≤ a.name)

end Likeness

/-- The names like a word, at most three, in alphabetic order. -/
def similar (word : String) (names : List String) : List String :=
  let close :=
    ((names.map (Likeness.between word)).filter Likeness.isClose).mergeSort Likeness.before
  ((close.take 3).map Likeness.name).mergeSort fun a b => decide (a ≤ b)

end TypstMarkup.Text
