import ApiStubs.Text.CharacterReference.Names
import Std.Data.HashMap

/-!
# Character references

A reference begins with an ampersand and calls a character by its number or by a name. A semicolon
ends it, but may be missing. A number may have any count of digits. `expand` replaces the references
of a text once, from left to right; what they are replaced by is not read again.
-/

namespace ApiStubs.Text.CharacterReference

/-- The number that hexadecimal digits denote. -/
def hexValue (digits : List Char) : Nat :=
  digits.foldl (fun total digit =>
    let place :=
      if '0' ≤ digit ∧ digit ≤ '9' then digit.toNat - 48
      else if 'a' ≤ digit ∧ digit ≤ 'f' then digit.toNat - 87
      else digit.toNat - 55
    total * 16 + place) 0

/-- The number that decimal digits denote. -/
def decimalValue (digits : List Char) : Nat :=
  digits.foldl (fun total digit => total * 10 + (digit.toNat - 48)) 0

/-- Whether a character is a hexadecimal digit. -/
def isHexDigit (char : Char) : Bool :=
  char.isDigit || ('a' ≤ char && char ≤ 'f') || ('A' ≤ char && char ≤ 'F')

/-! ## Names -/

/-- An entry `name=code+code` as the name and its characters. -/
def nameEntry (entry : List Char) : String × List Char :=
  let (name, codes) := entry.span (· != '=')
  let pieces := (codes.drop 1).splitBy fun _ next => next != '+'
  (String.ofList name,
    pieces.map fun piece => Char.ofNat (hexValue (piece.filter (· != '+'))))

/-- The characters that each name stands for, under every valid spelling of the name. -/
def namedCharacters : Std.HashMap String (List Char) :=
  nameLines.foldl (fun table line =>
    ((line.toList.splitBy fun _ next => next != ' ').map (·.filter (· != ' '))).foldl
      (fun table entry =>
        let (name, characters) := nameEntry entry
        let plain := table.insert name characters
        if name.toList.getLast? = some ';' then plain
        else plain.insert (name.push ';') characters) table) {}

/-- The characters that a name stands for. -/
def named? (name : List Char) : Option (List Char) :=
  namedCharacters.get? (String.ofList name)

/-- The characters for the longest beginning of a name, of the given length at most and two at
least, that is a name itself, followed by the rest of the name. -/
def namedBeginning? (name : List Char) : Nat → Option (List Char)
  | 0 => none
  | length + 1 =>
      if length + 1 < 2 then none
      else
        match named? (name.take (length + 1)) with
        | some characters => some (characters ++ name.drop (length + 1))
        | none => namedBeginning? name length

/-- Whether a character can stand in a name. -/
def isNameChar (char : Char) : Bool :=
  !(char == '\t' || char == '\n' || char == '\x0c' || char == ' ' || char == '<' || char == '&' ||
    char == '#' || char == ';')

/-- What the characters after an ampersand are replaced by when they begin with a name of at most 32
characters, and how many of them are read. -/
def readNamed (chars : List Char) : Option (List Char × Nat) :=
  let body := (chars.take 32).takeWhile isNameChar
  if body.isEmpty then none
  else
    let ending := if (chars.drop body.length).head? = some ';' then [';'] else []
    let name := body ++ ending
    let replacement :=
      match named? name with
      | some characters => characters
      | none => (namedBeginning? name (name.length - 1)).getD ('&' :: name)
    some (replacement, name.length)

/-! ## Numbers -/

/-- Characters that some numbers stand for although they are not the code points of them. -/
def reassigned : List (Nat × Nat) :=
  [(0x00, 0xFFFD), (0x0D, 0x0D), (0x80, 0x20AC), (0x81, 0x81), (0x82, 0x201A), (0x83, 0x0192),
    (0x84, 0x201E), (0x85, 0x2026), (0x86, 0x2020), (0x87, 0x2021), (0x88, 0x02C6),
    (0x89, 0x2030), (0x8A, 0x0160), (0x8B, 0x2039), (0x8C, 0x0152), (0x8D, 0x8D), (0x8E, 0x017D),
    (0x8F, 0x8F), (0x90, 0x90), (0x91, 0x2018), (0x92, 0x2019), (0x93, 0x201C), (0x94, 0x201D),
    (0x95, 0x2022), (0x96, 0x2013), (0x97, 0x2014), (0x98, 0x02DC), (0x99, 0x2122),
    (0x9A, 0x0161), (0x9B, 0x203A), (0x9C, 0x0153), (0x9D, 0x9D), (0x9E, 0x017E), (0x9F, 0x0178)]

/-- Whether a number calls for no character at all: most control characters and the code points
that are set aside as no characters. -/
def isDropped (number : Nat) : Bool :=
  (1 ≤ number && number ≤ 8) || number == 0x0B || (0x0E ≤ number && number ≤ 0x1F) ||
    (0x7F ≤ number && number ≤ 0x9F) || (0xFDD0 ≤ number && number ≤ 0xFDEF) ||
    number % 0x10000 == 0xFFFE || number % 0x10000 == 0xFFFF

/-- The characters that a number stands for. -/
def numbered (number : Nat) : List Char :=
  match reassigned.lookup number with
  | some code => [Char.ofNat code]
  | none =>
      if (0xD800 ≤ number ∧ number ≤ 0xDFFF) ∨ 0x10FFFF < number then ['\uFFFD']
      else if isDropped number then []
      else [Char.ofNat number]

/-- What the characters after an ampersand are replaced by when they begin with a number sign and
digits, and how many of them are read. -/
def readNumbered (chars : List Char) : Option (List Char × Nat) :=
  let finish (lead : Nat) (digits after : List Char) (number : Nat) :=
    let ending := if after.head? = some ';' then 1 else 0
    some (numbered number, lead + digits.length + ending)
  match chars with
  | '#' :: rest =>
      match rest.span Char.isDigit with
      | ([], _) =>
          match rest with
          | letter :: more =>
              if letter = 'x' ∨ letter = 'X' then
                match more.span isHexDigit with
                | ([], _) => none
                | (digits, after) => finish 2 digits after (hexValue digits)
              else none
          | [] => none
      | (digits, after) => finish 1 digits after (decimalValue digits)
  | _ => none

/-! ## Texts -/

/-- What a reference is replaced by and how many characters after its ampersand are read. -/
def read? (chars : List Char) : Option (List Char × Nat) :=
  match readNumbered chars with
  | some found => some found
  | none => readNamed chars

/-- Replace the character references. -/
def expand : List Char → List Char
  | [] => []
  | char :: rest =>
      if char = '&' then
        match read? rest with
        | some (replacement, count) => replacement ++ expand (rest.drop count)
        | none => '&' :: expand rest
      else char :: expand rest
termination_by chars => chars.length
decreasing_by
  all_goals simp only [List.length_drop, List.length_cons]; omega

/-- A text without ampersands is left as it is. -/
theorem expand_of_not_mem {chars : List Char} (absent : '&' ∉ chars) : expand chars = chars := by
  induction chars with
  | nil => rw [expand]
  | cons char rest inductionHypothesis =>
      have differs : char ≠ '&' := fun same => absent (same ▸ List.mem_cons_self ..)
      rw [expand, if_neg differs,
        inductionHypothesis fun member => absent (List.mem_cons_of_mem _ member)]

end ApiStubs.Text.CharacterReference
