import ApiStubs.Proofs.Text.Comment

/-!
# Texts without empty lines

A text is solid when every line of it holds something. Solid texts that are put together with an
empty line between them can be read back: cutting the whole at its empty lines gives them again.

- `blocks` cuts a text at its empty lines.
- `blocks_join` says that cutting undoes joining.
- A text of comment lines is solid, for a marker stands in each of its lines.
-/

namespace ApiStubs.Text

/-! ## Solid texts -/

/-- A text without an empty line. -/
def IsSolid (text : String) : Prop :=
  "" ∉ lines text

/-- A text of one line that holds something is solid. -/
theorem isSolid_of_isUnbroken {text : String} (unbroken : IsUnbroken text) (nonempty : text ≠ "") :
    IsSolid text := by
  rw [IsSolid, lines_of_not_mem unbroken, List.mem_singleton]
  exact nonempty.symm

/-- Solid texts on consecutive lines are solid. -/
theorem isSolid_join {texts : List String} (nonempty : texts ≠ [])
    (solid : ∀ text ∈ texts, IsSolid text) : IsSolid (join "\n" texts) := by
  rw [IsSolid, lines_join nonempty, List.mem_flatMap]
  rintro ⟨text, member, isEmpty⟩
  exact solid text member isEmpty

/-- In terms of characters, a solid text has no empty piece between newlines. -/
theorem isSolid_iff {text : String} : IsSolid text ↔ [] ∉ splitChars '\n' text.toList := by
  rw [IsSolid, lines, split, List.mem_map]
  refine not_congr ⟨?_, fun member => ⟨[], member, rfl⟩⟩
  rintro ⟨piece, member, isEmpty⟩
  obtain rfl : piece = [] := by simpa using congrArg String.toList isEmpty
  exact member

/-! ## Cutting at empty lines -/

/-- Cut a sequence of characters at every two newlines in a row, from left to right. -/
def blockChars : List Char → List (List Char)
  | [] => [[]]
  | '\n' :: '\n' :: rest => [] :: blockChars rest
  | char :: rest => (blockChars rest).modifyHead (char :: ·)

/-- The parts of a text between its empty lines. -/
def blocks (text : String) : List String :=
  (blockChars text.toList).map String.ofList

/-- A character stays in its part unless it is the first of two newlines. -/
theorem blockChars_cons {char : Char} {rest : List Char}
    (single : char = '\n' → rest.head? ≠ some '\n') :
    blockChars (char :: rest) = (blockChars rest).modifyHead (char :: ·) := by
  rw [blockChars.eq_def]
  split <;> simp_all

/-- In front of a character that is no newline, the pieces behind the first one stay. -/
theorem tail_splitChars_cons {char : Char} (differs : char ≠ '\n') (rest : List Char) :
    (splitChars '\n' (char :: rest)).tail = (splitChars '\n' rest).tail := by
  rw [splitChars, if_neg differs]
  split <;> simp [*]

/-- What begins with a newline has an empty piece. -/
theorem nil_mem_splitChars_newline (rest : List Char) : [] ∈ splitChars '\n' ('\n' :: rest) := by
  rw [splitChars, if_pos rfl]
  exact List.mem_cons_self ..

/-- Characters among whose later pieces none is empty are not cut, whether they are the last ones or
an empty line follows them. -/
theorem blockChars_append {chars : List Char} (full : [] ∉ (splitChars '\n' chars).tail)
    (rest : List Char) :
    blockChars chars = [chars] ∧
      blockChars (chars ++ '\n' :: '\n' :: rest) = chars :: blockChars rest := by
  induction chars with
  | nil => exact ⟨rfl, rfl⟩
  | cons char more inductionHypothesis =>
      -- Behind a newline stands a piece of its own, so it does not begin with a newline.
      have next : char = '\n' → [] ∉ splitChars '\n' more := by
        rintro rfl
        rwa [splitChars, if_pos rfl, List.tail_cons] at full
      have fullMore : [] ∉ (splitChars '\n' more).tail := by
        by_cases isNewline : char = '\n'
        · exact fun member => next isNewline (List.mem_of_mem_tail member)
        · rwa [tail_splitChars_cons isNewline] at full
      have single (ending : List Char) : char = '\n' → (more ++ ending).head? ≠ some '\n' := by
        intro isNewline begins
        cases more with
        | nil => exact next isNewline (by simp [splitChars])
        | cons second others =>
            obtain rfl : second = '\n' := by simpa using begins
            exact next isNewline (nil_mem_splitChars_newline others)
      obtain ⟨alone, followed⟩ := inductionHypothesis fullMore
      constructor
      · have singleAlone := single []
        rw [List.append_nil] at singleAlone
        rw [blockChars_cons singleAlone, alone]
        rfl
      · rw [List.cons_append, blockChars_cons (single _), followed]
        rfl

/-- A solid text is one block. -/
theorem blocks_of_isSolid {text : String} (solid : IsSolid text) : blocks text = [text] := by
  have full : [] ∉ (splitChars '\n' text.toList).tail := fun member =>
    isSolid_iff.1 solid (List.mem_of_mem_tail member)
  rw [blocks, (blockChars_append full []).1, List.map_singleton, String.ofList_toList]

/-- A solid text in front of an empty line is the first block. -/
theorem blocks_append {text : String} (solid : IsSolid text) (rest : String) :
    blocks (text ++ "\n\n" ++ rest) = text :: blocks rest := by
  have full : [] ∉ (splitChars '\n' text.toList).tail := fun member =>
    isSolid_iff.1 solid (List.mem_of_mem_tail member)
  have emptyLine : "\n\n".toList = ['\n', '\n'] := by decide
  rw [blocks, String.toList_append, String.toList_append, emptyLine, List.append_assoc,
    List.cons_append, List.singleton_append, (blockChars_append full _).2, List.map_cons,
    String.ofList_toList]
  rfl

/-- Solid texts with empty lines between them are the blocks of the whole. -/
theorem blocks_join {texts : List String} (nonempty : texts ≠ [])
    (solid : ∀ text ∈ texts, IsSolid text) : blocks (join "\n\n" texts) = texts := by
  induction texts with
  | nil => exact absurd rfl nonempty
  | cons first others inductionHypothesis =>
      obtain ⟨solidFirst, solidOthers⟩ := List.forall_mem_cons.1 solid
      cases others with
      | nil => exact blocks_of_isSolid solidFirst
      | cons second more =>
          rw [join, blocks_append solidFirst, inductionHypothesis (by simp) solidOthers]

/-- A marked text is solid. -/
theorem IsMarked.isSolid {text : String} (marked : IsMarked text) : IsSolid text := by
  intro isEmpty
  obtain ⟨char, member, -⟩ := exists_of_beginsWith (marked "" isEmpty)
  simp at member

end ApiStubs.Text
