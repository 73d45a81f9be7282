import ApiStubs.Fault

/-!
# Reading documents

A reader of JSON texts. Blanks are space, tab, newline and carriage return; the words `NaN`,
`Infinity` and `-Infinity` are numbers; a control character inside a string, a number with a
superfluous zero or sign, a trailing comma and anything after the value are refused. Of several
fields with one key the last one counts. Each function reads from the front of a list of characters
and returns what it read with the rest.

Texts hold Unicode scalar values, all of which can be encoded in a file. One half of a surrogate
pair without the other is no such value: it is read as the replacement character, and nothing is
said about documents that hold one.
-/

namespace ApiStubs.Json

/-- Whether a character separates the parts of a document. -/
def isSpace (char : Char) : Bool :=
  char == ' ' || char == '\t' || char == '\n' || char == '\r'

/-- The characters after the leading blanks. -/
def skipSpace (chars : List Char) : List Char :=
  chars.dropWhile isSpace

/-- The value of a hexadecimal digit. -/
def hexDigit? (char : Char) : Option Nat :=
  if '0' ≤ char ∧ char ≤ '9' then some (char.toNat - '0'.toNat)
  else if 'a' ≤ char ∧ char ≤ 'f' then some (char.toNat - 'a'.toNat + 10)
  else if 'A' ≤ char ∧ char ≤ 'F' then some (char.toNat - 'A'.toNat + 10)
  else none

/-- A code unit written as four hexadecimal digits. -/
def readUnit : List Char → Option (Nat × List Char)
  | first :: second :: third :: fourth :: rest => do
      let a ← hexDigit? first
      let b ← hexDigit? second
      let c ← hexDigit? third
      let d ← hexDigit? fourth
      some (((a * 16 + b) * 16 + c) * 16 + d, rest)
  | _ => none

/-- A character written as one code unit, or as a leading unit and the trailing unit after it. A
unit without its partner is read as the replacement character. -/
def readEscapedUnits (chars : List Char) : Option (Char × List Char) := do
  let (unit, rest) ← readUnit chars
  if 0xD800 ≤ unit ∧ unit < 0xDC00 then
    match rest with
    | '\\' :: 'u' :: more =>
        let (next, afterNext) ← readUnit more
        if 0xDC00 ≤ next ∧ next < 0xE000 then
          some (Char.ofNat (0x10000 + (unit - 0xD800) * 0x400 + (next - 0xDC00)), afterNext)
        else some ('\uFFFD', rest)
    | _ => some ('\uFFFD', rest)
  else if 0xDC00 ≤ unit ∧ unit < 0xE000 then some ('\uFFFD', rest)
  else some (Char.ofNat unit, rest)

/-- The character that a letter after a backslash stands for. -/
def escaped? : Char → Option Char
  | '"' => some '"'
  | '\\' => some '\\'
  | '/' => some '/'
  | 'b' => some '\x08'
  | 'f' => some '\x0c'
  | 'n' => some '\n'
  | 'r' => some '\r'
  | 't' => some '\t'
  | _ => none

/-- The characters of a string after its opening quote. The fuel bounds their number. -/
def readString : Nat → List Char → Option (List Char × List Char)
  | 0, _ => none
  | _ + 1, [] => none
  | fuel + 1, char :: rest =>
      if char = '"' then some ([], rest)
      else if char = '\\' then
        match rest with
        | [] => none
        | letter :: more => do
            let (meant, afterEscape) ←
              if letter = 'u' then readEscapedUnits more
              else (escaped? letter).map fun meant => (meant, more)
            let (others, afterString) ← readString fuel afterEscape
            some (meant :: others, afterString)
      else if char.toNat < 0x20 then none
      else do
        let (others, afterString) ← readString fuel rest
        some (char :: others, afterString)

/-- The number that decimal digits denote. -/
def digitsValue (digits : List Char) : Nat :=
  digits.foldl (fun total digit => total * 10 + (digit.toNat - '0'.toNat)) 0

/-- The leading decimal digits and the rest. -/
def spanDigits (chars : List Char) : List Char × List Char :=
  chars.span Char.isDigit

/-- The digits after a decimal point, if there are any. -/
def readFraction : List Char → List Char × List Char
  | '.' :: rest =>
      match spanDigits rest with
      | ([], _) => ([], '.' :: rest)
      | found => found
  | chars => ([], chars)

/-- The exponent after its letter, if it has digits. -/
def readExponent (chars : List Char) : Option (Int × List Char) :=
  match chars with
  | letter :: rest =>
      if letter = 'e' ∨ letter = 'E' then
        let (negative, unsigned) :=
          match rest with
          | '-' :: more => (true, more)
          | '+' :: more => (false, more)
          | more => (false, more)
        match spanDigits unsigned with
        | ([], _) => none
        | (digits, afterDigits) =>
            let magnitude : Int := digitsValue digits
            some (if negative then -magnitude else magnitude, afterDigits)
      else none
  | [] => none

/-- A number without its sign. It is an integer unless it has a fraction or an exponent. -/
def readUnsigned (negative : Bool) (chars : List Char) : Option (Value × List Char) :=
  let whole :=
    match chars with
    | '0' :: rest => (['0'], rest)
    | other => spanDigits other
  match whole with
  | ([], _) => none
  | (digits, afterDigits) =>
      let (fraction, afterFraction) := readFraction afterDigits
      match fraction, readExponent afterFraction with
      | [], none =>
          let magnitude : Int := digitsValue digits
          some (.integer (if negative then -magnitude else magnitude), afterFraction)
      | _, none =>
          some (.real (.ofScientific negative (digitsValue (digits ++ fraction))
            (-fraction.length)), afterFraction)
      | _, some (exponent, afterExponent) =>
          some (.real (.ofScientific negative (digitsValue (digits ++ fraction))
            (exponent - fraction.length)), afterExponent)

/-- The words that stand for values. -/
def words : List (String × Value) :=
  [("null", .null), ("true", .bool true), ("false", .bool false), ("NaN", .real .undefined),
    ("Infinity", .real (.infinite false)), ("-Infinity", .real (.infinite true))]

/-- A word that stands for a value. -/
def readWord (chars : List Char) : Option (Value × List Char) :=
  words.findSome? fun entry =>
    if entry.1.toList.isPrefixOf chars then some (entry.2, chars.drop entry.1.length) else none

/-- A word or a number. -/
def readScalar (chars : List Char) : Option (Value × List Char) :=
  match readWord chars with
  | some found => some found
  | none =>
      match chars with
      | '-' :: rest => readUnsigned true rest
      | other => readUnsigned false other

mutual

/-- A value at the front of the characters. The fuel bounds the number of nested parts and that of
the characters in a string. -/
def readValue : Nat → List Char → Option (Value × List Char)
  | 0, _ => none
  | fuel + 1, chars =>
      match chars with
      | '"' :: rest => do
          let (content, afterString) ← readString fuel rest
          some (.text (String.ofList content), afterString)
      | '[' :: rest =>
          match skipSpace rest with
          | ']' :: afterList => some (.list [], afterList)
          | members => do
              let (items, afterList) ← readItems fuel members
              some (.list items, afterList)
      | '\x7b' :: rest =>
          match skipSpace rest with
          | '\x7d' :: afterRecord => some (.record [], afterRecord)
          | members => do
              let (fields, afterRecord) ← readFields fuel members
              some (.record (Table.update [] fields), afterRecord)
      | other => readScalar other

/-- The members of a list up to its closing bracket. -/
def readItems : Nat → List Char → Option (List Value × List Char)
  | 0, _ => none
  | fuel + 1, chars => do
      let (item, afterItem) ← readValue fuel chars
      match skipSpace afterItem with
      | ']' :: afterList => some ([item], afterList)
      | ',' :: more =>
          let (others, afterList) ← readItems fuel (skipSpace more)
          some (item :: others, afterList)
      | _ => none

/-- The fields of a record up to its closing brace. -/
def readFields : Nat → List Char → Option (List (String × Value) × List Char)
  | 0, _ => none
  | fuel + 1, chars =>
      match chars with
      | '"' :: rest => do
          let (key, afterKey) ← readString fuel rest
          match skipSpace afterKey with
          | ':' :: content =>
              let (value, afterValue) ← readValue fuel (skipSpace content)
              let field := (String.ofList key, value)
              match skipSpace afterValue with
              | '\x7d' :: afterRecord => some ([field], afterRecord)
              | ',' :: more =>
                  let (others, afterRecord) ← readFields fuel (skipSpace more)
                  some (field :: others, afterRecord)
              | _ => none
          | _ => none
      | _ => none

end

/-- The value that a whole text denotes. Every second nested part consumes a character, so fuel for
twice the characters is enough: wherever a string begins, no fewer are left than it can have. -/
def read? (text : String) : Option Value :=
  let chars := text.toList
  match readValue (2 * chars.length + 2) (skipSpace chars) with
  | some (value, rest) => if (skipSpace rest).isEmpty then some value else none
  | none => none

/-- The value that a whole text denotes, or the fault that it is no document. -/
def read (text : String) : Outcome Value :=
  match read? text with
  | some value => .ok value
  | none => .error .malformedDocument

end ApiStubs.Json
