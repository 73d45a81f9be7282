import ApiStubs.Proofs.Text.Comment
import ApiStubs.Value.Display

/-!
# Newlines in displayed values

A text stands in a line as it is. Any other value is written out, and then a newline in a text
inside it is escaped. So only a text can bring a newline into a line.
-/

namespace ApiStubs

open Text

/-- No digit is a newline. -/
theorem digitChar_ne_newline : ∀ digit < 16, Nat.digitChar digit ≠ '\n' := by decide

/-- The digits of a number hold no newline. -/
theorem newline_not_mem_toDigits {base : Nat} (isBase : 1 < base ∧ base ≤ 16) (number : Nat) :
    '\n' ∉ Nat.toDigits base number := by
  induction number using Nat.strongRecOn with
  | ind number inductionHypothesis =>
      have lastDigit (digit : Nat) (isDigit : digit < base) :
          '\n' ∉ [Nat.digitChar digit] := fun member =>
        digitChar_ne_newline digit (by omega) (List.mem_singleton.1 member).symm
      rw [Nat.toDigits_eq_if isBase.1]
      split
      · next small => exact lastDigit number small
      · next large =>
          have smaller : number / base < number := Nat.div_lt_self (by omega) isBase.1
          exact List.not_mem_append (inductionHypothesis _ smaller)
            (lastDigit _ (Nat.mod_lt _ (by omega)))

namespace Text

/-- An escaped character is written without a newline. -/
theorem newline_not_mem_escapePoint (char : Char) : '\n' ∉ escapePoint char := by
  have digits (width : Nat) : '\n' ∉ hexadecimal width char.toNat := by
    refine List.not_mem_append ?_ (newline_not_mem_toDigits (by decide) _)
    exact fun member => absurd (List.eq_of_mem_replicate member) (by decide)
  rw [escapePoint]
  split
  · simp [digits]
  · split <;> simp [digits]

/-- A character between quotes is written without a newline. -/
theorem newline_not_mem_quotedChar {quote : Char} (differs : quote ≠ '\n') (char : Char) :
    '\n' ∉ quotedChar quote char := by
  by_cases isNewline : char = '\n'
  · subst isNewline
    simp [quotedChar, differs.symm]
  · rw [quotedChar, if_neg isNewline]
    split
    · simp [Ne.symm isNewline]
    · split
      · decide
      · split
        · decide
        · split
          · simp [Ne.symm isNewline]
          · exact newline_not_mem_escapePoint char

/-- A text between quotes is written without a newline. -/
theorem isUnbroken_quoted (text : String) : IsUnbroken (quoted text) := by
  have between {quote : Char} (differs : quote ≠ '\n') (chars : List Char) :
      '\n' ∉ quote :: chars.flatMap (quotedChar quote) ++ [quote] := by
    simp only [List.mem_append, List.mem_cons, List.mem_flatMap, List.not_mem_nil, or_false,
      not_or, not_exists, not_and]
    exact ⟨⟨differs.symm, fun char _ => newline_not_mem_quotedChar differs char⟩, differs.symm⟩
  rw [IsUnbroken, quoted, String.toList_ofList]
  split
  · exact between (by decide) _
  · exact between (by decide) _

end Text

/-- A natural number is written without a newline. -/
theorem isUnbroken_repr (number : Nat) : IsUnbroken number.repr := by
  rw [IsUnbroken, Nat.repr, String.toList_ofList]
  exact newline_not_mem_toDigits (by decide) number

/-- An exponent is written without a newline. -/
theorem Decimal.newline_not_mem_exponentMark (exponent : Int) : '\n' ∉ exponentMark exponent := by
  have digits := newline_not_mem_toDigits (by decide : 1 < 10 ∧ 10 ≤ 16) exponent.natAbs
  rw [exponentMark]
  refine List.not_mem_append ?_ ?_
  · split <;> decide
  · split <;> simp [digits]

/-- A finite number is written without a newline. -/
theorem Decimal.isUnbroken_finiteText (negative : Bool) (digits : Nat) (exponent : Int) :
    IsUnbroken (finiteText negative digits exponent) := by
  have places := newline_not_mem_toDigits (by decide : 1 < 10 ∧ 10 ≤ 16) digits
  have zeros (count : Nat) : '\n' ∉ List.replicate count '0' := fun member =>
    absurd (List.eq_of_mem_replicate member) (by decide)
  have taken (count : Nat) : '\n' ∉ (Nat.toDigits 10 digits).take count := fun member =>
    places (List.mem_of_mem_take member)
  have dropped (count : Nat) : '\n' ∉ (Nat.toDigits 10 digits).drop count := fun member =>
    places (List.mem_of_mem_drop member)
  have body (chars : List Char) (absent : '\n' ∉ chars) :
      '\n' ∉ if negative then '-' :: chars else chars := by
    split
    · simp [absent]
    · exact absent
  rw [IsUnbroken, finiteText, String.toList_ofList]
  refine body _ ?_
  dsimp only
  generalize (if digits = 0 then 0 else exponent + (Nat.toDigits 10 digits).length - 1) = leading
  split
  · split
    · exact List.not_mem_append (List.not_mem_append places (zeros _)) (by decide)
    · split
      · exact List.not_mem_append (List.not_mem_append (taken _) (by decide)) (dropped _)
      · exact List.not_mem_append (List.not_mem_append (by decide) (zeros _)) places
  · refine List.not_mem_append (List.not_mem_append (taken 1) ?_) (newline_not_mem_exponentMark _)
    split
    · decide
    · exact List.not_mem_cons_of_ne_of_not_mem (by decide) (dropped 1)

/-- A real number is written without a newline. -/
theorem Decimal.isUnbroken_display (number : Decimal) : IsUnbroken number.display := by
  cases number with
  | finite negative digits exponent => exact isUnbroken_finiteText negative digits exponent
  | infinite negative => cases negative <;> decide
  | undefined => decide

namespace Value

mutual

/-- A written value holds no newline. -/
theorem isUnbroken_written : (value : Value) → IsUnbroken value.written
  | .null => by decide
  | .bool true => by decide
  | .bool false => by decide
  | .integer (.ofNat number) => isUnbroken_repr number
  | .integer (.negSucc number) => isUnbroken_append.2 ⟨by decide, isUnbroken_repr number.succ⟩
  | .real value => value.isUnbroken_display
  | .text value => isUnbroken_quoted value
  | .list items => by
      rw [written, isUnbroken_append, isUnbroken_append]
      exact ⟨⟨by decide, isUnbroken_writtenItems items⟩, by decide⟩
  | .record fields => by
      rw [written, isUnbroken_append, isUnbroken_append]
      exact ⟨⟨by decide, isUnbroken_writtenFields fields⟩, by decide⟩

/-- The written members of a list hold no newline. -/
theorem isUnbroken_writtenItems : (items : List Value) → IsUnbroken (writtenItems items)
  | [] => by decide
  | [last] => by
      rw [writtenItems]
      exact isUnbroken_written last
  | first :: second :: rest => by
      rw [writtenItems, isUnbroken_append, isUnbroken_append]
      exact ⟨⟨isUnbroken_written first, by decide⟩, isUnbroken_writtenItems (second :: rest)⟩

/-- The written fields of a record hold no newline. -/
theorem isUnbroken_writtenFields : (fields : List (String × Value)) →
    IsUnbroken (writtenFields fields)
  | [] => by decide
  | [(key, value)] => by
      rw [writtenFields, isUnbroken_append, isUnbroken_append]
      exact ⟨⟨isUnbroken_quoted key, by decide⟩, isUnbroken_written value⟩
  | (key, value) :: second :: rest => by
      simp only [writtenFields, isUnbroken_append]
      exact ⟨⟨⟨⟨isUnbroken_quoted key, by decide⟩, isUnbroken_written value⟩, by decide⟩,
        isUnbroken_writtenFields (second :: rest)⟩

end

/-- What counts as the same as a text is that text. -/
theorem eq_text_of_same {value : Value} {content : String}
    (agrees : value.same (.text content) = true) : value = .text content := by
  cases value with
  | text own =>
      obtain rfl : own = content := by simpa [same] using agrees
      rfl
  | real number => cases whole : number.whole? <;> simp [same, whole?, whole] at agrees
  | _ => simp [same, whole?] at agrees

/-- A value that counts as the same as one that is displayed without a newline is so as well. -/
theorem isUnbroken_display_of_same {value other : Value} (agrees : value.same other = true)
    (unbroken : IsUnbroken value.display) : IsUnbroken other.display := by
  cases other with
  | text content =>
      obtain rfl := eq_text_of_same agrees
      exact unbroken
  | _ => exact isUnbroken_written _

end Value

end ApiStubs
