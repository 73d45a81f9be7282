import ApiStubs.Value.Access

/-!
# Kinds of declarations

Of the elements of a module only functions, variables, classes and aliases can be declared. This
module tells them apart by the type that is written in an element.
-/

namespace ApiStubs.Reference

/-- The kinds of elements that can be declared. -/
inductive Kind where
  | function
  | variable
  | classType
  | aliasType
  deriving DecidableEq, Repr, Inhabited

namespace Kind

/-- The kind that each element type stands for. -/
def byType : Table Kind :=
  [("FUNCTION", .function), ("VARIABLE", .variable), ("BASIC_CLASS", .classType),
    ("BASIC_ALIAS", .aliasType)]

/-- The kind of an element, if it can be declared. -/
def of? (element : Value) : Outcome (Option Kind) := do
  (← element.require "type").lookupIn byType

end Kind

end ApiStubs.Reference
