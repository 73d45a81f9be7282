import ApiStubs.Text.Basic
import ApiStubs.Text.Markup

/-!
# Comments

How a description becomes comment lines of a stub: as a block whose lines all carry a marker, as
the tail of a tag line, or as lines of its own that are left out when there is nothing to say.
-/

namespace ApiStubs.Text

/-- The marker in front of a comment line that belongs to a declaration. -/
def declarationMarker : String := "---"

/-- The lines of a plain text, each behind a marker. -/
def markedLines (marker plainText : String) : List String :=
  (lines plainText).map (marker ++ ·)

/-- A description as a block of lines, each behind a marker. -/
def commentBlock (description : Value) (marker : String) : Outcome String :=
  (plain description).map fun plainText => join "\n" (markedLines marker plainText)

/-- A plain text with a marker after every newline. -/
def markContinuations (marker plainText : String) : String :=
  String.ofList (plainText.toList.flatMap fun char =>
    if char = '\n' then '\n' :: marker.toList else [char])

/-- A description that goes on behind a tag: its first line follows the tag, and the others are
lines behind a marker. -/
def commentTail (description : Value) (marker : String) : Outcome String :=
  (plain description).map (markContinuations marker)

/-- The comment lines of a description, none when it is blank. -/
def lineComments (description : Value) : Outcome (List String) :=
  (plain description).map fun plainText =>
    if trim plainText = "" then [] else markedLines "-- " plainText

/-- A field text as its type, up to the first space, and the comment after it. -/
def splitField (text : String) : String × String :=
  match text.toList.span (· != ' ') with
  | (_, []) => (text, "")
  | (type, _ :: comment) => (String.ofList type, String.ofList (trimChars comment))

end ApiStubs.Text
