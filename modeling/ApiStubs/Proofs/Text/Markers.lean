import ApiStubs.Proofs.Text.Comment
import ApiStubs.Proofs.Text.Markup

/-!
# Texts behind markers

A description is written in three forms: as a block of lines behind a marker, behind a tag with the
marker in front of every further line, and as comment lines of its own. The first form is the second
one behind a marker, though one joins marked lines and the other goes through the characters; and no
form loses a character of the plain text.

- `ShowsBehind` says how a text is read back from lines behind a marker.
- `join_markedLines` is the agreement of the first two forms.
-/

namespace ApiStubs.Text

/-- Lines show a text behind a marker: each begins with it, and without it they are the lines of the
text. -/
structure ShowsBehind (marker : String) (marked : List String) (text : String) : Prop where
  begins : ∀ line ∈ marked, beginsWith line marker = true
  shown : join "\n" (marked.map (dropFirst marker.length)) = text

/-- The lines of a text behind a marker show it. -/
theorem showsBehind_markedLines (marker text : String) :
    ShowsBehind marker (markedLines marker text) text where
  begins := List.forall_mem_map.2 fun line _ => beginsWith_append marker line
  shown := by
    have restored : dropFirst marker.length ∘ (marker ++ ·) = id :=
      funext fun line => dropFirst_append marker line
    rw [markedLines, List.map_map, restored, List.map_id, join_lines]

/-- Putting a marker in front of every line is putting it in front of the text and behind every
newline. -/
theorem join_markedLines (marker text : String) :
    join "\n" (markedLines marker text) = marker ++ markContinuations marker text := by
  cases cut : lines text with
  | nil => exact absurd cut (lines_ne_nil text)
  | cons first others =>
      rw [markContinuations_eq_join cut, markedLines, cut, List.map_cons, join_append_cons]

/-- A description that is a text or missing is shown by each of its forms: a block is what goes on
behind a tag with the marker in front, its lines show the plain text behind the marker, and so do
the comment lines, of which there are none exactly when the plain text is blank. -/
theorem comments_show_plain_text {description : Value}
    (isNullOrText : description.IsNullOr Value.IsText) (marker : String) :
    ∃ plainText block tail own, plain description = .ok plainText ∧
      commentBlock description marker = .ok block ∧ commentTail description marker = .ok tail ∧
      lineComments description = .ok own ∧
      block = marker ++ tail ∧
      (IsUnbroken marker → ShowsBehind marker (lines block) plainText) ∧
      (own = [] ↔ ∀ char ∈ plainText.toList, isBlank char = true) ∧
      (own ≠ [] → ShowsBehind "-- " own plainText) := by
  obtain ⟨plainText, isPlain⟩ := exists_plain isNullOrText
  have written {α : Type} (form : String → α) :
      (plain description).map form = .ok (form plainText) := by
    rw [isPlain]
    rfl
  refine ⟨plainText, _, _, _, isPlain, written _, written _, written _,
    join_markedLines marker plainText, fun unbroken => ?_, ?_, ?_⟩
  · obtain ⟨other, isOther, cut⟩ := lines_commentBlock unbroken (written _)
    obtain rfl := Except.ok.inj (isPlain.symm.trans isOther)
    rw [cut]
    exact showsBehind_markedLines marker plainText
  · rw [← trim_eq_empty_iff]
    exact ite_eq_left_iff.trans (by simp [markedLines_ne_nil])
  · intro nonempty
    split
    · next trimmed => exact absurd (if_pos trimmed) nonempty
    · exact showsBehind_markedLines "-- " plainText

/-- Both forms of a description of three lines, one of them empty. -/
theorem comments_show_three_lines :
    ∃ block tail own, commentBlock (.text "Send <b>it</b>\n\nand wait") "---" = .ok block ∧
      commentTail (.text "Send <b>it</b>\n\nand wait") "---" = .ok tail ∧
      lineComments (.text "Send <b>it</b>\n\nand wait") = .ok own ∧
      block = "---" ++ tail ∧ ShowsBehind "---" (lines block) "Send it\n\nand wait" ∧
      ShowsBehind "-- " own "Send it\n\nand wait" := by
  have isText : (Value.text "Send <b>it</b>\n\nand wait").IsNullOr Value.IsText := .inr ⟨_, rfl⟩
  obtain ⟨plainText, block, tail, own, isPlain, isBlock, isTail, isOwn, same, shown, isEmpty,
    ownShown⟩ := comments_show_plain_text isText "---"
  have read : plainText = "Send it\n\nand wait" := by
    rw [plain_text] at isPlain
    rw [← Except.ok.inj isPlain]
    exact String.toList_inj.1 ((toList_plainOf (by decide)).trans (by decide))
  subst read
  have nonempty : own ≠ [] := fun empty =>
    absurd (isEmpty.1 empty 'S' (by decide)) (by decide)
  exact ⟨block, tail, own, isBlock, isTail, isOwn, same, shown (by decide), ownShown nonempty⟩

end ApiStubs.Text
