import ApiStubs.Text.Quoted
import ApiStubs.Value

/-!
# Values inside a text

What a value becomes when it is put into a line of a stub: a text stands for itself, any other
value is written out.
-/

namespace ApiStubs

/-- A real number as it stands in a line. -/
def Decimal.display : Decimal → String
  | .finite negative digits exponent => finiteText negative digits exponent
  | .infinite negative => if negative then "-inf" else "inf"
  | .undefined => "nan"

namespace Value

mutual

/-- The written form of a value, with texts in quotes. -/
def written : Value → String
  | .null => "None"
  | .bool true => "True"
  | .bool false => "False"
  | .integer value => value.repr
  | .real value => value.display
  | .text value => Text.quoted value
  | .list items => "[" ++ writtenItems items ++ "]"
  | .record fields => "\x7b" ++ writtenFields fields ++ "\x7d"

/-- The written members of a list, separated by commas. -/
def writtenItems : List Value → String
  | [] => ""
  | [last] => last.written
  | first :: second :: rest => first.written ++ ", " ++ writtenItems (second :: rest)

/-- The written fields of a record, separated by commas. -/
def writtenFields : List (String × Value) → String
  | [] => ""
  | [(key, value)] => Text.quoted key ++ ": " ++ value.written
  | (key, value) :: second :: rest =>
      Text.quoted key ++ ": " ++ value.written ++ ", " ++ writtenFields (second :: rest)

end

/-- A value as it stands in a line. -/
def display : Value → String
  | .text value => value
  | other => other.written

@[simp] theorem display_text (value : String) : (Value.text value).display = value := rfl

end Value

end ApiStubs
