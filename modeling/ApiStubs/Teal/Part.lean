import ApiStubs.Text.Basic
import ApiStubs.Value.Access

/-!
# Parts of the Teal file

A Teal file is made of lines and of blocks that are indented by one tab more than what they stand
in. Empty lines are not indented.
-/

namespace ApiStubs.Teal

/-- A line, or a block of parts that is indented one level deeper. -/
inductive Part where
  | line (text : String)
  | block (body : List Part)
  deriving Repr, Inhabited

namespace Part

/-- A line behind an indentation. -/
def indentLine (indentation text : String) : String :=
  if text = "" then "" else indentation ++ text

mutual

/-- The lines of a part behind an indentation. -/
def lines (indentation : String) : Part → List String
  | .line text => [indentLine indentation text]
  | .block body => linesOf (indentation ++ "\t") body

/-- The lines of several parts behind an indentation. -/
def linesOf (indentation : String) : List Part → List String
  | [] => []
  | part :: rest => part.lines indentation ++ linesOf indentation rest

end

/-- Whether a line opens a declaration: it is not empty, no comment, and not the end of a block. -/
def isDeclaration (text : String) : Bool :=
  text != "" && !Text.beginsWith text "--" && text != "end"

/-- A line with its declaration made global. -/
def exposeLine (text : String) : String :=
  if isDeclaration text then "global " ++ text else text

/-- A part with its declaration made global. -/
def exposePart : Part → Part
  | .line text => .line (exposeLine text)
  | .block body => .block body

/-- Make every declaration of the outermost level global. -/
def expose (parts : List Part) : List Part :=
  parts.map exposePart

mutual

/-- The part that a value stands for: a text is a line, and anything else a block of its members. -/
def ofValue : Value → Outcome Part
  | .text text => .ok (.line text)
  | .list items => do return .block (← ofValues items)
  | .record fields => .ok (.block (fields.map fun field => .line field.1))
  | _ => .error .wrongShape

/-- The parts that several values stand for. -/
def ofValues : List Value → Outcome (List Part)
  | [] => .ok []
  | value :: rest => do return (← ofValue value) :: (← ofValues rest)

end

mutual

/-- A part as a value: a line as a text, a block as a list. -/
def toValue : Part → Value
  | .line text => .text text
  | .block body => .list (toValues body)

/-- Several parts as values. -/
def toValues : List Part → List Value
  | [] => []
  | part :: rest => part.toValue :: toValues rest

end

end Part

end ApiStubs.Teal
