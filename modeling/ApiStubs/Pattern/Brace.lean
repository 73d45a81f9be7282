import ApiStubs.Fault
import ApiStubs.Table
import ApiStubs.Text.DecimalDigit
import ApiStubs.Text.Padding
import ApiStubs.Text.Quoted

/-!
# Brace patterns

A pattern is a text in which braces enclose a place: the name of an entry, which indices in brackets
can follow, a conversion after an exclamation mark, and a layout after a colon. Doubled braces stand
for themselves. A layout says how a text fills a wider field, and can hold places of its own.
-/

namespace ApiStubs.Pattern.Brace

/-- A place in a pattern. -/
structure Place where
  /-- The name of the entry and what follows it. -/
  name : List Char := []
  conversion? : Option Char := none
  layout : List Char := []
  deriving DecidableEq, Repr, Inhabited

/-- A piece of a pattern: a character that stands for itself, a place, or a brace without its
partner, which ends the reading. -/
inductive Piece where
  | char (char : Char)
  | place (place : Place)
  | broken
  deriving DecidableEq, Repr, Inhabited

/-! ## Reading a pattern -/

/-- What the next character of a place belongs to. -/
inductive Stage where
  | name
  | index
  | conversion
  | afterConversion
  | layout (depth : Nat)
  deriving DecidableEq, Repr, Inhabited

/-- What a character does to a place. -/
inductive Step where
  | more (place : Place) (stage : Stage)
  | complete (piece : Piece)
  deriving Repr, Inhabited

namespace Place

/-- The place with one more character in its name. -/
def extendName (place : Place) (char : Char) : Place :=
  { place with name := place.name ++ [char] }

/-- The place with one more character in its layout. -/
def extendLayout (place : Place) (char : Char) : Place :=
  { place with layout := place.layout ++ [char] }

/-- The next character of a place. Inside the brackets of an index every character belongs to the
index, and inside a layout braces are balanced. -/
def read (place : Place) (char : Char) : Stage → Step
  | .name =>
      if char = '\x7b' then .complete .broken
      else if char = '\x7d' then .complete (.place place)
      else if char = ':' then .more place (.layout 0)
      else if char = '!' then .more place .conversion
      else .more (place.extendName char) (if char = '[' then .index else .name)
  | .index => .more (place.extendName char) (if char = ']' then .name else .index)
  | .conversion => .more { place with conversion? := some char } .afterConversion
  | .afterConversion =>
      if char = '\x7d' then .complete (.place place)
      else if char = ':' then .more place (.layout 0)
      else .complete .broken
  | .layout depth =>
      if char = '\x7d' ∧ depth = 0 then .complete (.place place)
      else
        let after :=
          if char = '\x7b' then depth + 1 else if char = '\x7d' then depth - 1 else depth
        .more (place.extendLayout char) (.layout after)

end Place

/-- The pieces of a pattern, given the place that is being read. -/
def piecesFrom : Option (Place × Stage) → List Char → List Piece
  | none, [] => []
  | some _, [] => [.broken]
  | none, '\x7b' :: '\x7b' :: rest => .char '\x7b' :: piecesFrom none rest
  | none, '\x7b' :: rest => piecesFrom (some ({}, .name)) rest
  | none, '\x7d' :: '\x7d' :: rest => .char '\x7d' :: piecesFrom none rest
  | none, '\x7d' :: _ => [.broken]
  | none, char :: rest => .char char :: piecesFrom none rest
  | some (place, stage), char :: rest =>
      match place.read char stage with
      | .more next stage => piecesFrom (some (next, stage)) rest
      | .complete piece => piece :: piecesFrom none rest

/-- The pieces of a pattern. -/
def pieces (pattern : List Char) : List Piece :=
  piecesFrom none pattern

/-! ## The text of a place -/

/-- The largest number that is read as one. -/
def numberLimit : Nat := 9223372036854775807

/-- The number that a name is, none for a name that is no number. -/
def index? (name : List Char) : Outcome (Option Nat) :=
  match Text.number? name with
  | some number => if number ≤ numberLimit then .ok (some number) else .error .unusableValue
  | none => .ok none

/-- The entry of a name. Entries are not numbered, so a number leads to nothing, and neither does an
empty name, which stands for the next number. -/
def entryOf (entries : Table String) (name : List Char) : Outcome (List Char) := do
  if (← index? name).isSome || name.isEmpty then throw .missingPlace
  match entries.get? (String.ofList name) with
  | some text => return text.toList
  | none => throw (.missingKey (.text (String.ofList name)))

/-- The character at an index of a text. -/
def characterAt (text name : List Char) : Outcome (List Char) := do
  if name.isEmpty then throw .unusableValue
  match ← index? name with
  | none => throw .wrongShape
  | some index =>
      match text[index]? with
      | some char => return [char]
      | none => throw .missingPlace

/-- The part of a text that indices lead to. A text has no named parts. -/
def followIndices (text : List Char) (indices : List Char) : Outcome (List Char) :=
  match indices with
  | [] => .ok text
  | '[' :: rest =>
      match _rest : rest.dropWhile (· != ']') with
      | [] => .error .unusableValue
      | _ :: others => do
          followIndices (← characterAt text (rest.takeWhile (· != ']'))) others
  | '.' :: [] => .error .unusableValue
  | '.' :: next :: _ =>
      if next = '.' ∨ next = '[' then .error .unusableValue else .error .wrongShape
  | _ => .error .unusableValue
termination_by indices.length
decreasing_by
  have shorter := (rest.dropWhile_sublist (· != ']')).length_le
  rw [_rest] at shorter
  simp only [List.length_cons] at shorter ⊢
  omega

/-- Whether a character ends the name of an entry. -/
def endsName (char : Char) : Bool :=
  char == '.' || char == '['

/-- The text that the name of a place leads to. -/
def lookUp (entries : Table String) (name : List Char) : Outcome (List Char) := do
  let entry ← entryOf entries (name.takeWhile fun char => !endsName char)
  followIndices entry (name.dropWhile fun char => !endsName char)

/-- Convert a text: as it is, between quotes, or between quotes and in ASCII. -/
def convert (text : List Char) : Option Char → Outcome (List Char)
  | none => .ok text
  | some 's' => .ok text
  | some 'r' => .ok (Text.quoted (String.ofList text)).toList
  | some 'a' => .ok (Text.toAscii (Text.quoted (String.ofList text))).toList
  | some _ => .error .unusableValue

/-! ## Layouts -/

/-- How a text fills a field: the character that fills it, where the text stands, the width of the
field, and how much of the text is written. -/
structure Layout where
  fill : Char := ' '
  alignment : Text.Alignment := .left
  width : Nat := 0
  precision? : Option Nat := none
  deriving DecidableEq, Repr, Inhabited

/-- The alignment that a character stands for. The equals sign stands for one that texts do not
have. -/
def alignment? : Char → Option (Option Text.Alignment)
  | '<' => some (some .left)
  | '>' => some (some .right)
  | '^' => some (some .center)
  | '=' => some none
  | _ => none

/-- Read the alignment of a layout, and the character that fills the field, if it is given. -/
def readAlignment (layout : Layout) : List Char → Option (Layout × Bool × List Char)
  | fill :: mark :: rest =>
      match alignment? mark with
      | some found => found.map fun alignment => ({ layout with fill, alignment }, true, rest)
      | none => readMark fill (mark :: rest)
  | [mark] => readMark mark []
  | [] => some (layout, false, [])
where
  readMark (mark : Char) (rest : List Char) : Option (Layout × Bool × List Char) :=
    match alignment? mark with
    | some found => found.map fun alignment => ({ layout with alignment }, false, rest)
    | none => some (layout, false, mark :: rest)

/-- Read a zero in front of the width, which fills the field with zeros. -/
def readZero (layout : Layout) : List Char → Layout × List Char
  | '0' :: rest => ({ layout with fill := '0' }, rest)
  | rest => (layout, rest)

/-- Read a number, if there is one. -/
def readNumber (chars : List Char) : Option (Option Nat × List Char) :=
  match chars.takeWhile Text.isDigit with
  | [] => some (none, chars)
  | digits =>
      let number := Text.digitsNumber digits
      if number ≤ numberLimit then some (some number, chars.dropWhile Text.isDigit) else none

/-- Read the precision of a layout after its point. -/
def readPrecision (layout : Layout) : List Char → Option (Layout × List Char)
  | '.' :: rest =>
      match readNumber rest with
      | some (some precision, after) => some ({ layout with precision? := some precision }, after)
      | _ => none
  | rest => some (layout, rest)

/-- The layout that a text of characters describes. -/
def readLayout (chars : List Char) : Option Layout := do
  let (aligned, hasFill, afterAlignment) ← readAlignment {} chars
  let (filled, afterZero) :=
    if hasFill then (aligned, afterAlignment) else readZero aligned afterAlignment
  let (width?, afterWidth) ← readNumber afterZero
  let (layout, rest) ← readPrecision { filled with width := width?.getD 0 } afterWidth
  if rest = [] ∨ rest = ['s'] then some layout else none

/-- A text in the field of a layout. -/
def Layout.apply (layout : Layout) (text : List Char) : List Char :=
  Text.pad layout.fill layout.alignment layout.width
    (text.take (layout.precision?.getD text.length))

/-- A text in the field that a text of characters describes. -/
def layOut (chars text : List Char) : Outcome (List Char) :=
  match readLayout chars with
  | some layout => .ok (layout.apply text)
  | none => .error .unusableValue

/-! ## Filling a pattern -/

/-- Fill a pattern, given how deep layouts can hold places. -/
def fillWithin (entries : Table String) : Nat → List Char → Outcome (List Char)
  | 0, _ => .error .unusableValue
  | depth + 1, pattern => do
      let parts ← (pieces pattern).mapM fun piece =>
        match piece with
        | .char char => .ok [char]
        | .broken => .error .unusableValue
        | .place place => do
            let text ← convert (← lookUp entries place.name) place.conversion?
            let layout ←
              if place.layout.contains '\x7b' then fillWithin entries depth place.layout
              else .ok place.layout
            layOut layout text
      return parts.flatten

/-- Fill a pattern with named texts. The layout of a place can hold places, whose own layouts
cannot. -/
def fill (entries : Table String) (pattern : String) : Outcome String :=
  (fillWithin entries 2 pattern.toList).map String.ofList

end ApiStubs.Pattern.Brace
