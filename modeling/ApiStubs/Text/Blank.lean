import ApiStubs.Text.Range

/-!
# Blank characters

The characters that are trimmed from the ends of a text: the ASCII controls from tab to carriage
return, the four information separators, the space, and the blanks of the wider code space. The
zero-width characters are not among them.
-/

namespace ApiStubs.Text

/-- The ranges of code points that hold the blank characters. -/
def blankRanges : List (Nat × Nat) :=
  [(0x09, 0x0D), (0x1C, 0x20), (0x85, 0x85), (0xA0, 0xA0), (0x1680, 0x1680), (0x2000, 0x200A),
    (0x2028, 0x2029), (0x202F, 0x202F), (0x205F, 0x205F), (0x3000, 0x3000)]

/-- Whether a character is blank. -/
def isBlank (char : Char) : Bool :=
  liesIn blankRanges char.toNat

/-- Every whitespace character of the core library is blank. -/
theorem isBlank_of_isWhitespace {char : Char} (whitespace : char.isWhitespace = true) :
    isBlank char = true := by
  simp only [Char.isWhitespace, Bool.or_eq_true, decide_eq_true_eq] at whitespace
  rcases whitespace with ((rfl | rfl) | rfl) | rfl <;> decide

end ApiStubs.Text
