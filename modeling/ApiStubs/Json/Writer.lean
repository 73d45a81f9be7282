import ApiStubs.Value

/-!
# Writing documents

A value as a JSON text on one line. Strings escape the quote, the backslash and the control
characters and hold every other character as it is.
-/

namespace ApiStubs.Json

/-- The hexadecimal digit of a number below sixteen. -/
def hexDigit (number : Nat) : Char :=
  if number < 10 then Char.ofNat (48 + number) else Char.ofNat (87 + number)

/-- A character inside a string. -/
def writeChar (char : Char) : List Char :=
  if char = '"' ∨ char = '\\' then ['\\', char]
  else if char.toNat < 0x20 then
    ['\\', 'u', '0', '0', hexDigit (char.toNat / 16), hexDigit (char.toNat % 16)]
  else [char]

/-- A string between quotes. -/
def writeString (text : String) : String :=
  String.ofList ('"' :: text.toList.flatMap writeChar ++ ['"'])

/-- A real number. -/
def writeReal : Decimal → String
  | .finite negative digits exponent => Decimal.finiteText negative digits exponent
  | .infinite negative => if negative then "-Infinity" else "Infinity"
  | .undefined => "NaN"

mutual

/-- The text of a value. -/
def write : Value → String
  | .null => "null"
  | .bool true => "true"
  | .bool false => "false"
  | .integer value => value.repr
  | .real value => writeReal value
  | .text value => writeString value
  | .list items => "[" ++ writeItems items ++ "]"
  | .record fields => "\x7b" ++ writeFields fields ++ "\x7d"

/-- The members of a list, separated by commas. -/
def writeItems : List Value → String
  | [] => ""
  | [last] => write last
  | first :: second :: rest => write first ++ ", " ++ writeItems (second :: rest)

/-- The fields of a record, separated by commas. -/
def writeFields : List (String × Value) → String
  | [] => ""
  | [(key, value)] => writeString key ++ ": " ++ write value
  | (key, value) :: second :: rest =>
      writeString key ++ ": " ++ write value ++ ", " ++ writeFields (second :: rest)

end

end ApiStubs.Json
