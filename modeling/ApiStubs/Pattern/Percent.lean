import ApiStubs.Decimal.Rounded
import ApiStubs.Text.Padding
import ApiStubs.Value.Access
import ApiStubs.Value.Display

/-!
# Percent patterns

A pattern is a text in which a percent sign opens a place for a value: after it come a key in
parentheses, flags, a width, a precision and the letter that says how the value is written, and all
but the letter can be left out. A doubled percent sign stands for itself. One value fills a pattern:
it goes into the first place, and any further place is a fault unless it has a key, which takes an
entry of the value.
-/

namespace ApiStubs.Pattern

/-- What goes into a place. -/
inductive Source where
  /-- The value that fills the pattern. -/
  | whole
  /-- An entry of it. -/
  | entry (key : String)
  /-- Nothing, since the key has no closing parenthesis. -/
  | unclosed
  deriving DecidableEq, Repr, Inhabited

/-- The flags of a place. -/
structure Flags where
  /-- The value stands on the left of a wider field. -/
  left : Bool := false
  /-- A number carries its sign even when it is not negative. -/
  signed : Bool := false
  /-- A number that carries no sign has a space in front. -/
  spaced : Bool := false
  /-- A number shows its base or keeps its point. -/
  alternate : Bool := false
  /-- A number fills a wider field with zeros. -/
  zeros : Bool := false
  deriving DecidableEq, Repr, Inhabited

/-- A width or a precision: a number in the pattern, or a star, which takes a value. -/
inductive Amount where
  | given (number : Nat)
  | taken
  deriving DecidableEq, Repr, Inhabited

/-- A place in a pattern. It has no letter when the pattern ends inside it. -/
structure Place where
  source : Source := .whole
  flags : Flags := {}
  width? : Option Amount := none
  precision? : Option Amount := none
  letter? : Option Char := none
  deriving DecidableEq, Repr, Inhabited

/-- A piece of a pattern: a character that stands for itself, or a place. -/
inductive Piece where
  | char (char : Char)
  | place (place : Place)
  deriving DecidableEq, Repr, Inhabited

/-! ## Reading a pattern -/

/-- What the next character of a place can be. -/
inductive Stage where
  | start
  | key (depth : Nat) (name : List Char)
  | flags
  | width
  | precisionStart
  | precision
  | size
  | letter
  deriving DecidableEq, Repr, Inhabited

/-- What a character does to a place. -/
inductive Step where
  | more (place : Place) (stage : Stage)
  | complete (piece : Piece)
  deriving Repr, Inhabited

/-- The flags with one more, if the character is a flag. -/
def Flags.add? (flags : Flags) : Char → Option Flags
  | '-' => some { flags with left := true }
  | '+' => some { flags with signed := true }
  | ' ' => some { flags with spaced := true }
  | '#' => some { flags with alternate := true }
  | '0' => some { flags with zeros := true }
  | _ => none

/-- An amount with one more digit. -/
def Amount.extend (digit : Char) : Option Amount → Amount
  | some (.given number) => .given (number * 10 + (digit.toNat - '0'.toNat))
  | _ => .given (digit.toNat - '0'.toNat)

namespace Place

/-- The letter ends a place. -/
def readLetter (place : Place) (char : Char) : Step :=
  .complete (.place { place with letter? := some char })

/-- A size in front of the letter says nothing. -/
def readSize (place : Place) (char : Char) : Step :=
  if char = 'h' ∨ char = 'l' ∨ char = 'L' then .more place .letter else place.readLetter char

/-- A digit of the precision. -/
def readPrecision (place : Place) (char : Char) : Step :=
  if char.isDigit then
    .more { place with precision? := some (.extend char place.precision?) } .precision
  else place.readSize char

/-- The precision after its point. -/
def readPrecisionStart (place : Place) (char : Char) : Step :=
  if char = '*' then .more { place with precision? := some .taken } .size
  else place.readPrecision char

/-- The point in front of a precision. -/
def readPoint (place : Place) (char : Char) : Step :=
  if char = '.' then .more { place with precision? := some (.given 0) } .precisionStart
  else place.readSize char

/-- A digit of the width. -/
def readWidth (place : Place) (char : Char) : Step :=
  if char.isDigit ∧ place.width? ≠ some .taken then
    .more { place with width? := some (.extend char place.width?) } .width
  else place.readPoint char

/-- A flag, or the start of the width. -/
def readFlag (place : Place) (char : Char) : Step :=
  match place.flags.add? char with
  | some flags => .more { place with flags } .flags
  | none =>
      if char = '*' then .more { place with width? := some .taken } .width
      else place.readWidth char

/-- A character of the key, whose parentheses are balanced. -/
def readKey (place : Place) (depth : Nat) (name : List Char) (char : Char) : Step :=
  if char = ')' ∧ depth = 0 then
    .more { place with source := .entry (String.ofList name) } .flags
  else
    let after := if char = '(' then depth + 1 else if char = ')' then depth - 1 else depth
    .more { place with source := .unclosed } (.key after (name ++ [char]))

/-- The first character after the percent sign. -/
def readStart (place : Place) (char : Char) : Step :=
  if char = '%' then .complete (.char '%')
  else if char = '(' then .more { place with source := .unclosed } (.key 0 [])
  else place.readFlag char

/-- The next character of a place. -/
def read (place : Place) (char : Char) : Stage → Step
  | .start => place.readStart char
  | .key depth name => place.readKey depth name char
  | .flags => place.readFlag char
  | .width => place.readWidth char
  | .precisionStart => place.readPrecisionStart char
  | .precision => place.readPrecision char
  | .size => place.readSize char
  | .letter => place.readLetter char

end Place

/-- The pieces of a pattern, given the place that is being read. -/
def piecesFrom : Option (Place × Stage) → List Char → List Piece
  | none, [] => []
  | some (place, _), [] => [.place place]
  | none, char :: rest =>
      if char = '%' then piecesFrom (some ({}, .start)) rest
      else .char char :: piecesFrom none rest
  | some (place, stage), char :: rest =>
      match place.read char stage with
      | .more next stage => piecesFrom (some (next, stage)) rest
      | .complete piece => piece :: piecesFrom none rest

/-- The pieces of a pattern. -/
def pieces (pattern : String) : List Piece :=
  piecesFrom none pattern.toList

/-! ## Numbers in a place -/

/-- A number that is ready to be laid out: its sign, the mark of its base, and its digits. -/
structure Numeral where
  negative : Bool
  mark : List Char := []
  digits : List Char

namespace Flags

/-- The sign in front of a number. -/
def sign (flags : Flags) (negative : Bool) : List Char :=
  if negative then ['-'] else if flags.signed then ['+'] else if flags.spaced then [' '] else []

/-- Fill a text up to a width with spaces. -/
def layOut (flags : Flags) (width : Nat) (chars : List Char) : List Char :=
  Text.pad ' ' (if flags.left then .left else .right) width chars

/-- Fill a number up to a width. Zeros stand between the sign and the digits, and never behind
them. -/
def layOutNumeral (flags : Flags) (width : Nat) (numeral : Numeral) : List Char :=
  let front := flags.sign numeral.negative ++ numeral.mark
  let room := if flags.zeros && !flags.left then width - front.length else 0
  flags.layOut width (front ++ Text.pad '0' .right room numeral.digits)

end Flags

/-- The integer that a value is written as, rounded toward zero. -/
def integerOf : Value → Outcome Int
  | .bool value => .ok (if value then 1 else 0)
  | .integer value => .ok value
  | .real value =>
      match value with
      | .undefined => .error .unusableValue
      | .infinite _ => .error .tooLarge
      | finite => .ok (finite.truncated?.getD 0)
  | _ => .error .wrongShape

/-- The integer that a value is. -/
def exactIntegerOf : Value → Outcome Int
  | .real _ => .error .wrongShape
  | value => integerOf value

/-- The real number that a value is written as. -/
def realOf : Value → Outcome Decimal
  | .real value => .ok value
  | value => do
      match Decimal.ofInt (← exactIntegerOf value) with
      | .infinite _ => throw .tooLarge
      | real => return real

/-- An integer in a base, with at least as many digits as the precision says. -/
def integerNumeral (base : Nat) (mark : List Char) (precision : Nat) (value : Int) : Numeral :=
  { negative := decide (value < 0), mark
    digits := Text.pad '0' .right precision (Nat.toDigits base value.natAbs) }

/-- A real number in a form, with six places unless the precision says otherwise. -/
def realNumeral (form : Decimal.RoundedForm) (flags : Flags) (precision? : Option Nat)
    (value : Decimal) : Numeral :=
  { negative := value.isNegative
    digits := value.writeRounded form flags.alternate (precision?.getD 6) }

/-- A numeral in capital letters. -/
def Numeral.capital (numeral : Numeral) : Numeral :=
  { numeral with mark := numeral.mark.map Char.toUpper, digits := numeral.digits.map Char.toUpper }

/-- The numeral that a letter asks for, if it asks for one. -/
def numeralOf? (flags : Flags) (precision? : Option Nat) (value : Value) :
    Char → Option (Outcome Numeral)
  | 'd' | 'i' | 'u' => some ((integerOf value).map (integerNumeral 10 [] (precision?.getD 0)))
  | 'o' => some (based 8 ['0', 'o'])
  | 'x' => some (based 16 ['0', 'x'])
  | 'X' => some ((based 16 ['0', 'x']).map Numeral.capital)
  | 'f' => some (real .positional)
  | 'F' => some ((real .positional).map Numeral.capital)
  | 'e' => some (real .scientific)
  | 'E' => some ((real .scientific).map Numeral.capital)
  | 'g' => some (real .general)
  | 'G' => some ((real .general).map Numeral.capital)
  | _ => none
where
  based (base : Nat) (mark : List Char) : Outcome Numeral :=
    (exactIntegerOf value).map
      (integerNumeral base (if flags.alternate then mark else []) (precision?.getD 0))
  real (form : Decimal.RoundedForm) : Outcome Numeral :=
    (realOf value).map (realNumeral form flags precision?)

/-! ## Texts in a place -/

/-- The single character that a value is written as: a text of one character, or a code point. -/
def characterOf : Value → Outcome Char
  | .text content =>
      match content.toList with
      | [char] => .ok char
      | _ => .error .wrongShape
  | value => do
      let point ← exactIntegerOf value
      if 0 ≤ point ∧ point < 0x110000 then return Char.ofNat point.toNat else throw .tooLarge

/-- The text that a letter asks for, if it asks for one: the value as it stands in a line, written
out, or written out in ASCII. -/
def textOf? (value : Value) : Char → Option String
  | 's' => some value.display
  | 'r' => some value.written
  | 'a' => some (Text.toAscii value.written)
  | _ => none

/-- Write a value into a place with a letter. -/
def writeValue (flags : Flags) (width : Nat) (precision? : Option Nat) (letter : Char)
    (value : Value) : Outcome (List Char) :=
  match textOf? value letter with
  | some text =>
      let chars := text.toList
      .ok (flags.layOut width (chars.take (precision?.getD chars.length)))
  | none =>
      match numeralOf? flags precision? value letter with
      | some numeral => numeral.map (flags.layOutNumeral width)
      | none =>
          if letter = 'c' then (characterOf value).map fun char => flags.layOut width [char]
          else .error .unusableValue

/-! ## Filling a pattern -/

/-- The largest width. -/
def widthLimit : Nat := 9223372036854775807

/-- The largest precision. -/
def precisionLimit : Nat := 2147483647

/-- The number that an amount stands for, and the value that is left after it. A star takes the
value, which must be an integer; the place that it belongs to is then left without one. -/
def Amount.resolve (limit : Nat) (left? : Option Value) :
    Option Amount → Outcome (Option Nat × Option Value)
  | none => .ok (none, left?)
  | some (.given number) =>
      if number ≤ limit then .ok (some number, left?) else .error .unusableValue
  | some .taken => do
      match left? with
      | none => throw .wrongShape
      | some value =>
          let number ← exactIntegerOf value
          if number.natAbs ≤ limit then return (some number.natAbs, none) else throw .tooLarge

/-- The value that a place can take. Only a list or a record can have entries. -/
def Source.resolve (value : Value) (left? : Option Value) : Source → Outcome (Option Value)
  | .whole => .ok left?
  | .entry key => if value.isScalar then .error .wrongShape else (value.require key).map some
  | .unclosed => if value.isScalar then .error .wrongShape else .error .unusableValue

/-- Fill a place. The result is its text; the value that the place could take is used up. -/
def Place.fill (value : Value) (left? : Option Value) (place : Place) : Outcome (List Char) := do
  let available? ← place.source.resolve value left?
  let (width?, afterWidth?) ← Amount.resolve widthLimit available? place.width?
  let (precision?, afterPrecision?) ←
    Amount.resolve precisionLimit afterWidth? place.precision?
  match place.letter?, afterPrecision? with
  | none, _ => throw .unusableValue
  | some _, none => throw .wrongShape
  | some letter, some taken =>
      writeValue place.flags (width?.getD 0) precision? letter taken

/-- Fill pieces one after the other, and tell whether the value has been used. -/
def fillPieces (value : Value) : Option Value → List Piece → Outcome (List Char × Bool)
  | left?, [] => .ok ([], left?.isNone)
  | left?, .char char :: rest => do
      let (filled, used) ← fillPieces value left? rest
      return (char :: filled, used)
  | left?, .place place :: rest => do
      let text ← place.fill value left?
      let (filled, used) ← fillPieces value none rest
      return (text ++ filled, used)

/-- Fill a pattern with a value. A value that finds no place is a fault, unless it is a list or a
record. -/
def fill (pattern : String) (value : Value) : Outcome String := do
  let (filled, used) ← fillPieces value (some value) (pieces pattern)
  if used || !value.isScalar then return String.ofList filled else throw .wrongShape

end ApiStubs.Pattern
