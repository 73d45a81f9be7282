import ApiStubs.Proofs.Outcome
import ApiStubs.Proofs.Text.Trimming
import ApiStubs.Proofs.Value.Shape
import ApiStubs.Text.Comment

/-!
# Lines of comments

A description becomes lines of a comment. In a block every line of it stands behind the marker; as
the tail of a tag its first line stands behind the tag and every other line behind the marker.
Removing blanks at the end of such a text changes its last line only, as a marker is not blank.

- `lines_commentBlock` and `exists_lines_commentTail` say which lines these are.
- `IsMarked` is what lines of comments have in common.
- `forall₂_lines_trimEnd` says what removing blanks at the end does to lines.
-/

namespace ApiStubs.Text

/-! ## Texts of one line -/

/-- A text without a newline. -/
def IsUnbroken (text : String) : Prop :=
  '\n' ∉ text.toList

instance (text : String) : Decidable (IsUnbroken text) :=
  inferInstanceAs (Decidable (_ ∉ _))

/-- Texts are put together without a newline when none of them has one. -/
@[simp] theorem isUnbroken_append {left right : String} :
    IsUnbroken (left ++ right) ↔ IsUnbroken left ∧ IsUnbroken right := by
  rw [IsUnbroken, String.toList_append, List.mem_append, not_or]
  rfl

/-- Texts are joined without a newline when neither they nor the separator has one. -/
theorem isUnbroken_join {separator : String} (unbroken : IsUnbroken separator) {texts : List String}
    (each : ∀ text ∈ texts, IsUnbroken text) : IsUnbroken (join separator texts) := by
  induction texts with
  | nil => exact List.not_mem_nil
  | cons first others inductionHypothesis =>
      obtain ⟨unbrokenFirst, unbrokenOthers⟩ := List.forall_mem_cons.1 each
      cases others with
      | nil => exact unbrokenFirst
      | cons second rest =>
          rw [join, isUnbroken_append, isUnbroken_append]
          exact ⟨⟨unbrokenFirst, unbroken⟩, inductionHypothesis unbrokenOthers⟩

/-- The lines of a text hold no newline. -/
theorem isUnbroken_of_mem_lines {text line : String} (member : line ∈ lines text) :
    IsUnbroken line := by
  obtain ⟨piece, isPiece, rfl⟩ := List.mem_map.1 member
  rw [IsUnbroken, String.toList_ofList]
  exact not_mem_of_mem_splitChars isPiece

/-- A text has a line. -/
theorem lines_ne_nil (text : String) : lines text ≠ [] := by
  simpa [lines, split] using splitChars_ne_nil '\n' text.toList

/-- Texts of one line each are the lines of their join. -/
theorem lines_join_of_isUnbroken {texts : List String} (nonempty : texts ≠ [])
    (unbroken : ∀ text ∈ texts, IsUnbroken text) : lines (join "\n" texts) = texts :=
  split_join nonempty unbroken

/-- A text of one line below others is the last line of the whole. -/
theorem lines_join_concat (texts : List String) {last : String} (unbroken : IsUnbroken last) :
    lines (join "\n" (texts ++ [last])) = texts.flatMap lines ++ [last] := by
  rw [lines_join (by simp), List.flatMap_append, List.flatMap_singleton, lines_of_not_mem unbroken]

/-- What stands in front of the first of several lines stands in front of all of them together. -/
theorem join_append_cons (start first : String) (others : List String) :
    join "\n" ((start ++ first) :: others) = start ++ join "\n" (first :: others) := by
  cases others with
  | nil => rfl
  | cons second rest => simp only [join, String.append_assoc]

/-- What stands in front of a text without a newline becomes the start of its first line. -/
theorem lines_append {start : String} (unbroken : IsUnbroken start) {text first : String}
    {others : List String} (cut : lines text = first :: others) :
    lines (start ++ text) = (start ++ first) :: others := by
  have each : ∀ line ∈ lines text, IsUnbroken line := fun _ => isUnbroken_of_mem_lines
  rw [cut] at each
  obtain ⟨unbrokenFirst, unbrokenOthers⟩ := List.forall_mem_cons.1 each
  have whole : start ++ text = join "\n" ((start ++ first) :: others) := by
    rw [← join_lines text, cut, join_append_cons]
  rw [whole]
  refine lines_join_of_isUnbroken (by simp) (List.forall_mem_cons.2 ⟨?_, unbrokenOthers⟩)
  exact isUnbroken_append.2 ⟨unbroken, unbrokenFirst⟩

/-! ## Plain texts -/

/-- A description that is a text or missing has a plain text. -/
theorem exists_plain {description : Value} (isNullOrText : description.IsNullOr Value.IsText) :
    ∃ plainText, plain description = .ok plainText := by
  rcases isNullOrText with rfl | ⟨content, rfl⟩
  · exact ⟨"", rfl⟩
  · rw [plain]
    split
    · exact ⟨plainOf content, rfl⟩
    · exact ⟨"", rfl⟩

section Description

variable {description : Value} (isNullOrText : description.IsNullOr Value.IsText)

include isNullOrText

/-- Such a description has a block of comment lines. -/
theorem exists_commentBlock (marker : String) :
    ∃ block, commentBlock description marker = .ok block := by
  obtain ⟨plainText, isPlain⟩ := exists_plain isNullOrText
  exact ⟨_, Outcome.map_eq_ok.2 ⟨plainText, isPlain, rfl⟩⟩

/-- Such a description can go on behind a tag. -/
theorem exists_commentTail (marker : String) :
    ∃ tail, commentTail description marker = .ok tail := by
  obtain ⟨plainText, isPlain⟩ := exists_plain isNullOrText
  exact ⟨_, Outcome.map_eq_ok.2 ⟨plainText, isPlain, rfl⟩⟩

/-- Such a description has comment lines of its own, or none. -/
theorem exists_lineComments : ∃ lines, lineComments description = .ok lines := by
  obtain ⟨plainText, isPlain⟩ := exists_plain isNullOrText
  exact ⟨_, Outcome.map_eq_ok.2 ⟨plainText, isPlain, rfl⟩⟩

end Description

/-! ## Lines behind a marker -/

/-- A text has a line behind a marker, even when it is empty. -/
theorem markedLines_ne_nil (marker text : String) : markedLines marker text ≠ [] := by
  simpa [markedLines] using lines_ne_nil text

/-- Replacing a separator is joining the pieces with the replacement. -/
theorem joinChars_splitChars_eq_flatMap (separator : Char) (replacement chars : List Char) :
    joinChars replacement (splitChars separator chars) =
      chars.flatMap fun char => if char = separator then replacement else [char] := by
  induction chars with
  | nil => rfl
  | cons char rest inductionHypothesis =>
      rw [List.flatMap_cons, ← inductionHypothesis, splitChars]
      cases pieces : splitChars separator rest with
      | nil => exact absurd pieces (splitChars_ne_nil separator rest)
      | cons first others =>
          split
          · rfl
          · cases others <;> simp [joinChars]

/-- Marking continuations puts the marker in front of every line but the first. -/
theorem markContinuations_eq_join {marker plainText first : String} {others : List String}
    (cut : lines plainText = first :: others) :
    markContinuations marker plainText = join "\n" (first :: others.map (marker ++ ·)) := by
  have replaced : markContinuations marker plainText =
      join ("\n" ++ marker) (lines plainText) := by
    apply String.toList_injective
    rw [markContinuations, toList_join, lines, split, List.map_map]
    have undone : String.toList ∘ String.ofList = id := funext fun _ => String.toList_ofList
    rw [undone, List.map_id, joinChars_splitChars_eq_flatMap, String.toList_ofList]
    simp
  rw [replaced, cut]
  clear replaced cut
  induction others generalizing first with
  | nil => rfl
  | cons second rest inductionHypothesis =>
      simp only [join, List.map_cons, String.append_assoc, inductionHypothesis]
      cases rest <;> simp only [join, List.map_nil, List.map_cons, String.append_assoc]

section Marker

variable {marker : String} (unbroken : IsUnbroken marker) {description : Value}

include unbroken

/-- The lines of a block are those of the plain text, each behind the marker. -/
theorem lines_commentBlock {block : String}
    (returns : commentBlock description marker = .ok block) :
    ∃ plainText, plain description = .ok plainText ∧
      lines block = (lines plainText).map (marker ++ ·) := by
  obtain ⟨plainText, isPlain, rfl⟩ := Outcome.map_eq_ok.1 returns
  exact ⟨plainText, isPlain, lines_join_of_isUnbroken (markedLines_ne_nil marker plainText)
    (List.forall_mem_map.2 fun line member =>
      isUnbroken_append.2 ⟨unbroken, isUnbroken_of_mem_lines member⟩)⟩

/-- Behind a start, the first line of the plain text follows the start, and every other line the
marker. -/
theorem exists_lines_commentTail {tail : String}
    (returns : commentTail description marker = .ok tail) :
    ∃ plainText first others, plain description = .ok plainText ∧
      lines plainText = first :: others ∧ ∀ start, IsUnbroken start →
        lines (start ++ tail) = (start ++ first) :: others.map (marker ++ ·) := by
  obtain ⟨plainText, isPlain, rfl⟩ := Outcome.map_eq_ok.1 returns
  cases cut : lines plainText with
  | nil => exact absurd cut (lines_ne_nil plainText)
  | cons first others =>
      have each : ∀ line ∈ lines plainText, IsUnbroken line := fun _ => isUnbroken_of_mem_lines
      rw [cut] at each
      obtain ⟨unbrokenFirst, unbrokenOthers⟩ := List.forall_mem_cons.1 each
      have linesTail : lines (markContinuations marker plainText) =
          first :: others.map (marker ++ ·) := by
        rw [markContinuations_eq_join cut]
        refine lines_join_of_isUnbroken (by simp) (List.forall_mem_cons.2 ⟨unbrokenFirst, ?_⟩)
        exact List.forall_mem_map.2 fun line member =>
          isUnbroken_append.2 ⟨unbroken, unbrokenOthers line member⟩
      exact ⟨plainText, first, others, isPlain, cut,
        fun start unbrokenStart => lines_append unbrokenStart linesTail⟩

end Marker

/-- A text begins with what its start begins with. -/
theorem beginsWith_trans {text middle start : String} (outer : beginsWith text middle = true)
    (inner : beginsWith middle start = true) : beginsWith text start = true := by
  obtain ⟨rest, rfl⟩ := exists_eq_append_of_beginsWith inner
  exact beginsWith_of_beginsWith_append rest outer

/-! ## Marked texts -/

/-- A text every line of which begins with the marker of declarations. -/
def IsMarked (text : String) : Prop :=
  ∀ line ∈ lines text, beginsWith line declarationMarker = true

/-- A character that a start does not hold ends what can begin with that start. -/
theorem isPrefixOf_append_cons {start : List Char} {next : Char} (absent : next ∉ start)
    (chars rest : List Char) :
    start.isPrefixOf (chars ++ next :: rest) = start.isPrefixOf chars := by
  induction start generalizing chars with
  | nil => simp
  | cons first more inductionHypothesis =>
      rw [List.mem_cons, not_or] at absent
      cases chars with
      | nil => simp [List.isPrefixOf, Ne.symm absent.1]
      | cons char chars => simp [List.isPrefixOf, inductionHypothesis absent.2 chars]

/-- What a text begins with does not hold the character that follows the text. -/
theorem beginsWith_append_eq {rest start : String}
    (absent : ∀ next ∈ rest.toList.head?, next ∉ start.toList) (text : String) :
    beginsWith (text ++ rest) start = beginsWith text start := by
  rw [beginsWith, beginsWith, String.toList_append]
  cases follows : rest.toList with
  | nil => rw [List.append_nil]
  | cons next others => exact isPrefixOf_append_cons (absent next (by simp [follows])) ..

/-- A text that begins with the marker holds something that is not blank. -/
theorem exists_of_beginsWith {text : String} (marked : beginsWith text declarationMarker = true) :
    ∃ char ∈ text.toList, isBlank char = false := by
  obtain ⟨rest, whole⟩ := List.isPrefixOf_iff_prefix.1 marked
  exact ⟨'-', whole ▸ List.mem_append_left _ (by decide), by decide⟩

/-- One line that begins with the marker is marked. -/
theorem isMarked_of_isUnbroken {text : String} (unbroken : IsUnbroken text)
    (begins : beginsWith text declarationMarker = true) : IsMarked text := by
  rw [IsMarked, lines_of_not_mem unbroken]
  exact List.forall_mem_singleton.2 begins

/-- A block of comment lines is marked. -/
theorem isMarked_commentBlock {description : Value} {block : String}
    (returns : commentBlock description declarationMarker = .ok block) : IsMarked block := by
  obtain ⟨plainText, _, made⟩ := lines_commentBlock (by decide) returns
  rw [IsMarked, made]
  exact List.forall_mem_map.2 fun line _ => beginsWith_append ..

/-- A description that goes on behind a marked line is marked. -/
theorem isMarked_append_commentTail {start : String} (unbroken : IsUnbroken start)
    (begins : beginsWith start declarationMarker = true) {description : Value} {tail : String}
    (returns : commentTail description declarationMarker = .ok tail) :
    IsMarked (start ++ tail) := by
  obtain ⟨plainText, first, others, _, _, made⟩ := exists_lines_commentTail (by decide) returns
  rw [IsMarked, made start unbroken]
  refine List.forall_mem_cons.2 ⟨beginsWith_append_right begins first, ?_⟩
  exact List.forall_mem_map.2 fun line _ => beginsWith_append ..

/-- Removing blanks at the end of a marked text trims its last line at most. -/
theorem forall₂_lines_trimEnd {text : String} (marked : IsMarked text) :
    List.Forall₂ (fun line trimmed => trimmed = line ∨ trimmed = trimEnd line) (lines text)
      (lines (trimEnd text)) := by
  have same (above : List String) :
      List.Forall₂ (fun line trimmed => trimmed = line ∨ trimmed = trimEnd line) above above :=
    List.forall₂_same.2 fun _ _ => .inl rfl
  rcases List.eq_nil_or_concat (lines text) with none | ⟨above, last, whole⟩
  · exact absurd none (lines_ne_nil text)
  rw [List.concat_eq_append] at whole
  have each : ∀ line ∈ above ++ [last], IsUnbroken line := by
    rw [← whole]
    exact fun _ => isUnbroken_of_mem_lines
  obtain ⟨unbrokenAbove, unbrokenLast⟩ := List.forall_mem_append.1 each
  have trimmedLast : IsUnbroken (trimEnd last) := fun member =>
    unbrokenLast last (by simp) (mem_of_mem_trimEnd member)
  -- The last line begins with the marker, so no blank above it is at the end of the text.
  have cut : lines (trimEnd text) = above ++ [trimEnd last] := by
    have held := exists_of_beginsWith (marked last (by simp [whole]))
    have stays : trimEnd text = join "\n" (above ++ [trimEnd last]) := by
      rw [← join_lines text, whole]
      by_cases alone : above = []
      · rw [alone]
        rfl
      · rw [join_concat "\n" alone, join_concat "\n" alone, trimEnd_append _ held]
    rw [stays]
    exact lines_join_of_isUnbroken (by simp)
      (List.forall_mem_append.2 ⟨unbrokenAbove, List.forall_mem_singleton.2 trimmedLast⟩)
  rw [cut, whole]
  exact List.rel_append (same above) (.cons (.inr rfl) .nil)

/-- A marked text stays so when blanks at its end are removed. -/
theorem IsMarked.trimEnd {text : String} (marked : IsMarked text) : IsMarked (trimEnd text) := by
  intro trimmed member
  obtain ⟨line, among, same⟩ :=
    Outcome.exists_matched_left (forall₂_lines_trimEnd marked) member
  have begins := marked line among
  rcases same with rfl | rfl
  · exact begins
  · rwa [beginsWith_trimEnd (by decide)]

end ApiStubs.Text
