import ApiStubs.Text.Visible

/-!
# Quoted texts

The form of a text that stands inside a written list or record: between single quotes, or between
double quotes when it holds a single quote and no double one. The quote, the backslash and hidden
characters are escaped; where only ASCII can be written, every other character is escaped as well.
-/

namespace ApiStubs.Text

/-- The hexadecimal digits of a number, filled up with zeros to a width. -/
def hexadecimal (width number : Nat) : List Char :=
  let digits := Nat.toDigits 16 number
  List.replicate (width - digits.length) '0' ++ digits

/-- A character written by its code point, in the shortest of three forms that holds it. -/
def escapePoint (char : Char) : List Char :=
  if char.toNat < 0x100 then '\\' :: 'x' :: hexadecimal 2 char.toNat
  else if char.toNat < 0x10000 then '\\' :: 'u' :: hexadecimal 4 char.toNat
  else '\\' :: 'U' :: hexadecimal 8 char.toNat

/-- A character between quotes. -/
def quotedChar (quote char : Char) : List Char :=
  if char = quote ∨ char = '\\' then ['\\', char]
  else if char = '\n' then ['\\', 'n']
  else if char = '\r' then ['\\', 'r']
  else if char = '\t' then ['\\', 't']
  else if isVisible char then [char]
  else escapePoint char

/-- A text between quotes. -/
def quoted (text : String) : String :=
  let chars := text.toList
  let quote := if chars.contains '\'' && !chars.contains '"' then '"' else '\''
  String.ofList (quote :: chars.flatMap (quotedChar quote) ++ [quote])

/-- A text in which the characters beyond ASCII are written by their code points. -/
def toAscii (text : String) : String :=
  String.ofList (text.toList.flatMap fun char =>
    if char.toNat < 0x80 then [char] else escapePoint char)

end ApiStubs.Text
