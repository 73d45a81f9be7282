/-!
# Ranges of code points

A class of characters is given by the ranges of code points that hold it.
-/

namespace ApiStubs.Text

/-- Whether a code point lies in one of several ranges, both ends included. -/
def liesIn (ranges : List (Nat × Nat)) (point : Nat) : Bool :=
  ranges.any fun range => range.1 ≤ point && point ≤ range.2

end ApiStubs.Text
