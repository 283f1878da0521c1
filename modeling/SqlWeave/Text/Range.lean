/-!
# Character properties as ranges

A property of characters is a list of closed ranges of code points.
-/
namespace SqlWeave.Text

/-- Does one of the ranges hold `code`? -/
def inRanges (ranges : List (Nat × Nat)) (code : Nat) : Bool :=
  ranges.any fun range => range.1 ≤ code && code ≤ range.2

end SqlWeave.Text
