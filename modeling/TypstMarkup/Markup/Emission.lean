import TypstMarkup.Fault

/-!
What a writer has written. Writing stops at the first failure, and what was written before it stays
visible.
-/
namespace TypstMarkup

/-- The text written so far, and the failure that ended the writing, if any. -/
structure Emission where
  written : List Char
  fault : Option Fault

namespace Emission

def text (s : List Char) : Emission := ⟨s, none⟩

def fail (f : Fault) : Emission := ⟨[], some f⟩

/-- Writes one after the other; after a failure nothing more is written. -/
def append (a b : Emission) : Emission :=
  match a.fault with
  | some _ => a
  | none => ⟨a.written ++ b.written, b.fault⟩

instance : Append Emission := ⟨append⟩

/-- Continues with a result, or fails with its failure. -/
def attempt {α : Type} (result : Except Fault α) (next : α → Emission) : Emission :=
  match result with
  | .ok a => next a
  | .error f => fail f

def attemptText (result : Except Fault (List Char)) : Emission :=
  attempt result text

def concat : List Emission → Emission
  | [] => text []
  | e :: rest => e ++ concat rest

def join (delimiter : List Char) : List Emission → Emission
  | [] => text []
  | [e] => e
  | e :: rest => e ++ (text delimiter ++ join delimiter rest)

def enclose (left : List Char) (body : Emission) (right : List Char) : Emission :=
  text left ++ (body ++ text right)

/-- Writes a body between a delimiter and its reverse. -/
def surround (left : List Char) (body : Emission) : Emission :=
  enclose left body left.reverse

def toExcept (e : Emission) : Except Fault (List Char) :=
  match e.fault with
  | some f => .error f
  | none => .ok e.written

/-- The emission of a sink that already holds a text. -/
def after (e : Emission) (held : List Char) : Emission :=
  ⟨held ++ e.written, e.fault⟩

@[simp] theorem text_append_fault (s : List Char) (e : Emission) :
    (text s ++ e).fault = e.fault := rfl

theorem append_assoc (a b c : Emission) : a ++ b ++ c = a ++ (b ++ c) := by
  obtain ⟨wa, fa⟩ := a
  obtain ⟨wb, fb⟩ := b
  cases fa with
  | some f => rfl
  | none => cases fb with
    | some f => rfl
    | none => exact congrArg (Emission.mk · c.fault) (List.append_assoc wa wb c.written)

end Emission

end TypstMarkup
