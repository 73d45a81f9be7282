/-!
# Padding

A text in a field: filled up to the width of the field on one side or on both.
-/

namespace ApiStubs.Text

/-- Where a text stands in a field that is wider. -/
inductive Alignment where
  | left
  | right
  | center
  deriving DecidableEq, Repr, Inhabited

namespace Alignment

/-- How many of the missing characters stand before the text. In the center an odd one stands
behind it. -/
def before : Alignment → Nat → Nat
  | .left, _ => 0
  | .right, missing => missing
  | .center, missing => missing / 2

theorem before_le (alignment : Alignment) (missing : Nat) : alignment.before missing ≤ missing := by
  cases alignment <;> simp only [before] <;> omega

end Alignment

/-- Fill a text up to a width. -/
def pad (fill : Char) (alignment : Alignment) (width : Nat) (chars : List Char) : List Char :=
  let missing := width - chars.length
  let before := alignment.before missing
  List.replicate before fill ++ chars ++ List.replicate (missing - before) fill

/-- A padded text is as long as the field, or as the text when that is longer. -/
theorem length_pad (fill : Char) (alignment : Alignment) (width : Nat) (chars : List Char) :
    (pad fill alignment width chars).length = max width chars.length := by
  have bound := alignment.before_le (width - chars.length)
  simp only [pad, List.length_append, List.length_replicate]
  omega

end ApiStubs.Text
