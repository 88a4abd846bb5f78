/-!
Character classes given as closed ranges of code points.
-/
namespace TypstMarkup.Text

def inRanges (ranges : List (Nat × Nat)) (point : Nat) : Bool :=
  ranges.any fun range => range.1 ≤ point && point ≤ range.2

end TypstMarkup.Text
