import ApiStubs.Proofs.Text.Comment

/-!
# How often a text holds another

Places that overlap count each. A part without newlines stands within a line wherever it stands, so
the lines of a text can be counted one by one:

- `occurrences_append_newline` counts on both sides of a newline,
- `occurrences_append_of_apart` leaves out a start that shares no character with the part,
- `occurrences_join_map` carries what counts in no line over to all of a text's lines,
- `occurrences_commentBlock` puts these together for a block of comment lines.
-/

namespace ApiStubs.Text

/-- How often a sequence of characters stands in another. -/
def countOf (part : List Char) : List Char → Nat
  | [] => if part.isEmpty then 1 else 0
  | char :: rest => (if part.isPrefixOf (char :: rest) then 1 else 0) + countOf part rest

/-- How often a text holds another. -/
def occurrences (text part : String) : Nat :=
  countOf part.toList text.toList

/-- A sequence that does not occur is counted zero times. -/
theorem countOf_eq_zero {part chars : List Char} :
    countOf part chars = 0 ↔ occursIn part chars = false := by
  induction chars with
  | nil => cases part <;> simp [countOf, occursIn]
  | cons char rest inductionHypothesis =>
      rw [countOf, occursIn, Bool.or_eq_false_iff, Nat.add_eq_zero_iff, inductionHypothesis]
      cases part.isPrefixOf (char :: rest) <;> simp

/-- A text that does not hold another holds it zero times. -/
theorem occurrences_eq_zero {text part : String} :
    occurrences text part = 0 ↔ includes text part = false :=
  countOf_eq_zero

section Part

variable {part : List Char} (nonempty : part ≠ [])

include nonempty

/-- A character that the part does not hold separates what is counted. -/
theorem countOf_append_cons {separator : Char} (absent : separator ∉ part)
    (left right : List Char) :
    countOf part (left ++ separator :: right) = countOf part left + countOf part right := by
  induction left with
  | nil =>
      have apart := isPrefixOf_append_cons absent [] right
      rw [List.nil_append] at apart ⊢
      cases part with
      | nil => exact absurd rfl nonempty
      | cons first more => simp [countOf, apart]
  | cons char rest inductionHypothesis =>
      have begins := isPrefixOf_append_cons absent (char :: rest) right
      rw [List.cons_append] at begins ⊢
      rw [countOf, countOf, begins, inductionHypothesis, Nat.add_assoc]

/-- Characters that the part does not hold add nothing in front. -/
theorem countOf_append_of_apart {start : List Char} (apart : ∀ char ∈ start, char ∉ part)
    (chars : List Char) : countOf part (start ++ chars) = countOf part chars := by
  have nothing : countOf part [] = 0 := by
    cases part with
    | nil => exact absurd rfl nonempty
    | cons first more => rfl
  induction start with
  | nil => rfl
  | cons char rest inductionHypothesis =>
      obtain ⟨first, others⟩ := List.forall_mem_cons.1 apart
      have cut := countOf_append_cons nonempty first [] (rest ++ chars)
      rw [List.nil_append, nothing, Nat.zero_add] at cut
      rw [List.cons_append, cut, inductionHypothesis others]

end Part

section Text

variable {part : String} (nonempty : part ≠ "")

include nonempty

/-- Characters that the part does not hold add nothing in front of a text. -/
theorem occurrences_append_of_apart {start : String}
    (apart : ∀ char ∈ start.toList, char ∉ part.toList) (text : String) :
    occurrences (start ++ text) part = occurrences text part := by
  rw [occurrences, String.toList_append]
  exact countOf_append_of_apart (by simpa using nonempty) apart text.toList

variable (unbroken : IsUnbroken part)

include unbroken

/-- On both sides of a newline a part without newlines is counted by itself. -/
theorem occurrences_append_newline (left right : String) :
    occurrences (left ++ "\n" ++ right) part = occurrences left part + occurrences right part := by
  have newline : "\n".toList = ['\n'] := by decide
  rw [occurrences, String.append_assoc, String.toList_append, String.toList_append, newline]
  exact countOf_append_cons (by simpa using nonempty) unbroken ..

/-- A change that counts in no line counts in no text that is joined of lines. -/
theorem occurrences_join_map {change : String → String}
    (same : ∀ text, occurrences (change text) part = occurrences text part) (texts : List String) :
    occurrences (join "\n" (texts.map change)) part = occurrences (join "\n" texts) part := by
  induction texts with
  | nil => rfl
  | cons first others inductionHypothesis =>
      cases others with
      | nil => exact same first
      | cons second rest =>
          rw [List.map_cons, List.map_cons, join, join,
            occurrences_append_newline nonempty unbroken,
            occurrences_append_newline nonempty unbroken, same, ← List.map_cons,
            inductionHypothesis]

/-- A block of comment lines holds a part as often as the plain text does, when the marker shares no
character with the part. -/
theorem occurrences_commentBlock {marker block : String}
    (apart : ∀ char ∈ marker.toList, char ∉ part.toList) {description : Value}
    (returns : commentBlock description marker = .ok block) :
    ∃ plainText, plain description = .ok plainText ∧
      occurrences block part = occurrences plainText part := by
  obtain ⟨plainText, isPlain, rfl⟩ := Outcome.map_eq_ok.1 returns
  refine ⟨plainText, isPlain, ?_⟩
  rw [markedLines,
    occurrences_join_map nonempty unbroken (occurrences_append_of_apart nonempty apart), join_lines]

end Text

end ApiStubs.Text
