import ApiStubs.Pattern.Percent

/-!
# Arrays

A documented array type carries one pair of brackets for each dimension behind the type of its
members. A dialect writes it by a pattern, which the member type fills.
-/

namespace ApiStubs.Types

/-- Take the bracket pairs off the end of a type whose characters stand in reverse order. -/
def takeBrackets : List Char → List Char × Nat
  | ']' :: '[' :: rest => ((takeBrackets rest).1, (takeBrackets rest).2 + 1)
  | chars => (chars, 0)

/-- A type without the bracket pairs behind it, and their number. -/
def splitBrackets (type : String) : String × Nat :=
  let (base, depth) := takeBrackets type.toList.reverse
  (String.ofList base.reverse, depth)

/-- The type of arrays of the given number of dimensions. -/
def arrayOf (pattern : String) (type : Value) : Nat → Outcome Value
  | 0 => .ok type
  | depth + 1 => do
      let filled ← Pattern.fill pattern type
      arrayOf pattern (.text filled) depth

end ApiStubs.Types
