/-!
Powers of two and of ten, which scale the numbers of this library, and the bound of machine words.
-/
namespace TypstMarkup

def twoTo (exponent : Nat) : Nat := Nat.pow 2 exponent

def tenTo (exponent : Nat) : Nat := Nat.pow 10 exponent

@[simp] theorem twoTo_zero : twoTo 0 = 1 := rfl

theorem twoTo_succ (n : Nat) : twoTo (n + 1) = twoTo n * 2 := rfl

/-- The bound of lengths and positions that fit a machine word, the 63rd power of two. -/
def wordLimit : Nat := 0x8000000000000000

def fitsWord (n : Int) : Bool :=
  -(wordLimit : Int) ≤ n && n < wordLimit

theorem fitsWord_iff (n : Int) : fitsWord n ↔ -(wordLimit : Int) ≤ n ∧ n < wordLimit := by
  simp [fitsWord]

end TypstMarkup
