import ApiStubs.Lua.File
import ApiStubs.Proofs.Text.Occurrences
import ApiStubs.Proofs.Value.Display
import ApiStubs.Proofs.Value.Shape
import ApiStubs.Settings.Default

/-!
# The comment at the top of a file

A Lua file begins with a block comment that says what the file was generated with, and which holds
the plain title and description of its module. The comment ends at the first pair of closing
brackets. So the whole of it is read as a comment exactly when neither text holds such a pair
(`header_isBlockComment_iff`): nothing is done to the pairs that a text brings along.
-/

namespace ApiStubs.Lua

open ApiStubs.Value

/-- The brackets that end a block comment. -/
def closingBrackets : String := "]]"

/-- One closed block comment: it ends where its closing brackets stand first. -/
structure IsBlockComment (text : String) : Prop where
  opens : Text.beginsWith text "--[[" = true
  closes : Text.endsWith text closingBrackets = true
  closesOnce : Text.occurrences text closingBrackets = 1

/-- The lines of a header from the opening brackets to the title, which do not depend on whether the
module has a description. -/
def headerStart (writer : StubWriter) (version titleText : String) : String :=
  "--[[" ++ "\n" ++ ("  Generated with " ++ writer.settings.generator) ++ "\n" ++
    ("  Defold " ++ version) ++ "\n" ++ "" ++ "\n" ++ ("  " ++ titleText)

/-- The lines of the description that a header goes on with, each behind two blanks; none when the
title says the same. -/
def headerMore (title description : Value) : Outcome (Option String) :=
  if description.isGiven && !description.same title then
    (Text.commentBlock description "  ").map some
  else .ok none

/-- The header that begins with a start and goes on with a block, if there is one. -/
def frameHeader (start : String) : Option String → String
  | none => start ++ "\n" ++ "--]]"
  | some block => start ++ "\n" ++ "" ++ "\n" ++ block ++ "\n" ++ "--]]"

/-- A header is its start, and the description where there is one to be said. -/
theorem header_eq {writer : StubWriter} {version titleText : String} {title description : Value}
    {block? : Option String} (isTitle : Text.plain title = .ok titleText)
    (isMore : headerMore title description = .ok block?) :
    header writer version title description =
      .ok (frameHeader (headerStart writer version titleText) block?) := by
  have shown (text : String) : toString text = text := rfl
  rw [headerMore] at isMore
  simp only [header, isTitle, Outcome.ok_bind]
  split at isMore
  · next said =>
      obtain ⟨block, isBlock, rfl⟩ := Outcome.map_eq_ok.1 isMore
      simp only [said, if_true, isBlock, Outcome.ok_bind]
      apply congrArg Except.ok
      apply String.toList_injective
      simp [frameHeader, headerStart, shown]
  · next silent =>
      obtain rfl := Except.ok.inj isMore
      simp only [silent]
      apply congrArg Except.ok
      apply String.toList_injective
      simp [frameHeader, headerStart, shown]

/-! ## Counting closing brackets -/

/-- What stands on both sides of a newline is counted by itself. -/
theorem occurrences_closingBrackets_append (left right : String) :
    Text.occurrences (left ++ "\n" ++ right) closingBrackets =
      Text.occurrences left closingBrackets + Text.occurrences right closingBrackets :=
  Text.occurrences_append_newline (by decide) (by decide) left right

/-- The start of a header holds the closing brackets as often as the texts that it is made of. -/
theorem occurrences_headerStart (writer : StubWriter) (version titleText : String) :
    Text.occurrences (headerStart writer version titleText) closingBrackets =
      Text.occurrences writer.settings.generator closingBrackets +
        Text.occurrences version closingBrackets +
        Text.occurrences titleText closingBrackets := by
  have behind (start : String) (apart : ']' ∉ start.toList) (text : String) :
      Text.occurrences (start ++ text) closingBrackets = Text.occurrences text closingBrackets :=
    Text.occurrences_append_of_apart (by decide)
      (fun char member => by
        have differs : char ≠ ']' := ne_of_mem_of_not_mem member apart
        simpa [closingBrackets] using differs) text
  have opening : Text.occurrences "--[[" closingBrackets = 0 := by decide
  have empty : Text.occurrences "" closingBrackets = 0 := by decide
  simp only [headerStart, occurrences_closingBrackets_append, opening, empty]
  rw [behind "  Generated with " (by decide), behind "  Defold " (by decide),
    behind "  " (by decide)]
  omega

/-- A header ends with closing brackets, besides which it holds those of its start and of its
block. -/
theorem occurrences_frameHeader (start : String) (block? : Option String) :
    Text.occurrences (frameHeader start block?) closingBrackets =
      Text.occurrences start closingBrackets +
        Text.occurrences (block?.getD "") closingBrackets + 1 := by
  have empty : Text.occurrences "" closingBrackets = 0 := by decide
  have closing : Text.occurrences "--]]" closingBrackets = 1 := by decide
  cases block? with
  | none => simp only [frameHeader, occurrences_closingBrackets_append, closing, empty,
      Option.getD_none, Nat.add_zero]
  | some block =>
      simp only [frameHeader, occurrences_closingBrackets_append, closing, empty,
        Option.getD_some, Nat.add_zero]

/-- A header opens and closes a comment. -/
theorem frameHeader_opens_and_closes (writer : StubWriter) (version titleText : String)
    (block? : Option String) :
    let text := frameHeader (headerStart writer version titleText) block?
    Text.beginsWith text "--[[" = true ∧ Text.endsWith text closingBrackets = true := by
  have ending : "--]]" = "--" ++ closingBrackets := by decide
  constructor
  · cases block? <;> simp only [frameHeader, headerStart, String.append_assoc] <;>
      exact Text.beginsWith_append ..
  · cases block? <;> simp only [frameHeader, ending, ← String.append_assoc] <;>
      exact Text.endsWith_append ..

/-! ## Titles and descriptions -/

/-- Besides the start, a header holds closing brackets where the plain description does. -/
theorem exists_headerMore {title description : Value} {titleText descriptionText : String}
    (titleIsText : title.IsText) (isTitle : Text.plain title = .ok titleText)
    (isDescription : Text.plain description = .ok descriptionText) :
    ∃ block?, headerMore title description = .ok block? ∧
      (Text.occurrences titleText closingBrackets = 0 ∧
          Text.occurrences (block?.getD "") closingBrackets = 0 ↔
        Text.includes titleText closingBrackets = false ∧
          Text.includes descriptionText closingBrackets = false) := by
  have empty : Text.includes "" closingBrackets = false := by decide
  simp only [Text.occurrences_eq_zero, headerMore]
  split
  · have isBlock : Text.commentBlock description "  " =
        .ok (Text.join "\n" (Text.markedLines "  " descriptionText)) :=
      Outcome.map_eq_ok.2 ⟨descriptionText, isDescription, rfl⟩
    obtain ⟨plainText, isPlain, same⟩ := Text.occurrences_commentBlock
      (by decide : closingBrackets ≠ "") (by decide) (by simp [closingBrackets]) isBlock
    obtain rfl := Except.ok.inj (isDescription.symm.trans isPlain)
    refine ⟨_, Outcome.map_eq_ok.2 ⟨_, isBlock, rfl⟩, and_congr_right fun _ => ?_⟩
    rw [Option.getD_some, ← Text.occurrences_eq_zero, same, Text.occurrences_eq_zero]
  · next silent =>
      refine ⟨none, rfl, and_congr_right fun apart => iff_of_true empty ?_⟩
      by_cases given : description.isGiven = true
      · have repeated : description.same title = true := by simpa [given] using silent
        obtain ⟨content, rfl⟩ := titleIsText
        obtain rfl := Value.eq_text_of_same repeated
        obtain rfl := Except.ok.inj (isTitle.symm.trans isDescription)
        exact apart
      · rw [Text.plain, if_neg given] at isDescription
        obtain rfl := Except.ok.inj isDescription
        exact empty

/-- The header of a module is one closed block comment exactly when neither its plain title nor its
plain description holds closing brackets. -/
theorem header_isBlockComment_iff {writer : StubWriter} {version : String}
    (cleanGenerator : Text.includes writer.settings.generator closingBrackets = false)
    (cleanVersion : Text.includes version closingBrackets = false) {title description : Value}
    (titleIsText : title.IsText) (descriptionIsText : description.IsNullOr IsText) :
    ∃ text titleText descriptionText, header writer version title description = .ok text ∧
      Text.plain title = .ok titleText ∧ Text.plain description = .ok descriptionText ∧
      (IsBlockComment text ↔ Text.includes titleText closingBrackets = false ∧
        Text.includes descriptionText closingBrackets = false) := by
  obtain ⟨titleText, isTitle⟩ := Text.exists_plain (.inr titleIsText)
  obtain ⟨descriptionText, isDescription⟩ := Text.exists_plain descriptionIsText
  obtain ⟨block?, isMore, apart_iff⟩ := exists_headerMore titleIsText isTitle isDescription
  refine ⟨_, titleText, descriptionText, header_eq isTitle isMore, isTitle, isDescription, ?_⟩
  obtain ⟨opens, closes⟩ := frameHeader_opens_and_closes writer version titleText block?
  have counted := occurrences_frameHeader (headerStart writer version titleText) block?
  rw [occurrences_headerStart, Text.occurrences_eq_zero.2 cleanGenerator,
    Text.occurrences_eq_zero.2 cleanVersion] at counted
  rw [← apart_iff]
  constructor
  · intro isComment
    have once := isComment.closesOnce
    omega
  · intro apart
    exact ⟨opens, closes, by omega⟩

/-- A title with references and a description with tags make one closed block comment. -/
theorem header_isBlockComment_of_marked_up_texts :
    let writer : StubWriter := { settings := .default, known := ⟨[]⟩ }
    Text.includes writer.settings.generator closingBrackets = false ∧
      Text.includes "1.9.0" closingBrackets = false ∧
      ∃ text titleText descriptionText,
        header writer "1.9.0" (.text "Tables &amp; indices")
          (.text "Reads <code>values[1]</code>\nof a table") = .ok text ∧
        Text.plain (.text "Tables &amp; indices") = .ok titleText ∧
        Text.plain (.text "Reads <code>values[1]</code>\nof a table") = .ok descriptionText ∧
        (IsBlockComment text ↔ Text.includes titleText closingBrackets = false ∧
          Text.includes descriptionText closingBrackets = false) :=
  ⟨by decide, by decide, header_isBlockComment_iff (by decide) (by decide) (isText_text _)
    (.inr (isText_text _))⟩

/-- A description that indexes by an indexed value ends the comment in the middle of it. -/
theorem header_not_isBlockComment_of_nested_index :
    let writer : StubWriter := { settings := .default, known := ⟨[]⟩ }
    Text.includes writer.settings.generator closingBrackets = false ∧
      Text.includes "1.9.0" closingBrackets = false ∧
      ∃ text, header writer "1.9.0" (.text "Tables")
          (.text "Reads values[keys[1]] of a table") = .ok text ∧ ¬ IsBlockComment text := by
  refine ⟨by decide, by decide, _, rfl, fun isComment => ?_⟩
  have twice := isComment.closesOnce
  revert twice
  decide +kernel

end ApiStubs.Lua
