import ApiStubs.Text.CharacterReference
import ApiStubs.Value.Access

/-!
# Marked-up texts

Descriptions are written with tags and character references. Their plain text is what is left when
the tags are removed in one pass from left to right and the references are replaced after that.
-/

namespace ApiStubs.Text

/-- Remove the tags, given the characters since an open angle bracket in reverse order. A bracket
that opens while another is open makes the earlier one ordinary text, and so does the end. -/
def removeTagsAfter : Option (List Char) → List Char → List Char
  | none, [] => []
  | some held, [] => '<' :: held.reverse
  | none, char :: rest =>
      if char = '<' then removeTagsAfter (some []) rest else char :: removeTagsAfter none rest
  | some held, char :: rest =>
      if char = '<' then '<' :: held.reverse ++ removeTagsAfter (some []) rest
      else if char = '>' then removeTagsAfter none rest
      else removeTagsAfter (some (char :: held)) rest

/-- Remove every tag: an opening angle bracket, characters that are no angle brackets, and a closing
one. -/
def removeTags (chars : List Char) : List Char :=
  removeTagsAfter none chars

/-- The plain text of a marked-up text. -/
def plainOf (text : String) : String :=
  String.ofList (CharacterReference.expand (removeTags text.toList))

/-- The plain text of a description, empty when none is given. -/
def plain (description : Value) : Outcome String :=
  if description.isGiven then description.asText.map plainOf else .ok ""

end ApiStubs.Text
