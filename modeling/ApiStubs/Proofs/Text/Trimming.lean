import ApiStubs.Text.Basic
import Mathlib.Data.List.DropRight

/-!
# Trimmed texts

Trimming removes the blanks at the ends of a text and nothing else (`exists_trimChars_append`). So
what is not blank stays, a text is trimmed when no blank stands at either end (`trim_eq_self_iff`),
and nothing is left exactly of a blank one (`trim_eq_empty_iff`). A text that is trimmed at its end
begins like the whole text, as far as that is not blank (`beginsWith_trimEnd`).
-/

namespace ApiStubs.Text

/-! ## Both ends -/

/-- A sequence is what is left of it when it is trimmed, between blanks. -/
theorem exists_trimChars_append (chars : List Char) :
    ∃ start ending, chars = start ++ (trimChars chars ++ ending) ∧
      (∀ char ∈ start, isBlank char = true) ∧ ∀ char ∈ ending, isBlank char = true := by
  refine ⟨chars.takeWhile isBlank, (chars.dropWhile isBlank).rtakeWhile isBlank, ?_,
    fun char => List.mem_takeWhile_imp, fun char => List.mem_rtakeWhile_imp⟩
  have ends : trimChars chars ++ (chars.dropWhile isBlank).rtakeWhile isBlank =
      chars.dropWhile isBlank := List.rdropWhile_append_rtakeWhile ..
  rw [ends, List.takeWhile_append_dropWhile]

/-- Trimming leaves a sequence with no blank at either end. -/
theorem trimChars_eq_self_iff {chars : List Char} : trimChars chars = chars ↔
    (∀ char ∈ chars.head?, isBlank char = false) ∧
      ∀ char ∈ chars.getLast?, isBlank char = false := by
  have starts : chars.dropWhile isBlank = chars ↔ ∀ char ∈ chars.head?, isBlank char = false := by
    cases chars with
    | nil => simp
    | cons char rest => simp [List.dropWhile_eq_self_iff]
  have ends : chars.rdropWhile isBlank = chars ↔
      ∀ char ∈ chars.getLast?, isBlank char = false := by
    rcases List.eq_nil_or_concat chars with rfl | ⟨rest, char, rfl⟩
    · simp
    · simp [List.rdropWhile_eq_self_iff]
  rw [← starts, ← ends]
  constructor
  · intro trimmed
    have whole : chars.dropWhile isBlank = chars := by
      have shorter : (trimChars chars).length ≤ (chars.dropWhile isBlank).length :=
        (List.rdropWhile_prefix (p := isBlank) (l := chars.dropWhile isBlank)).length_le
      rw [trimmed] at shorter
      exact (List.dropWhile_suffix isBlank).eq_of_length_le shorter
    refine ⟨whole, ?_⟩
    have inner : trimChars chars = (chars.dropWhile isBlank).rdropWhile isBlank := rfl
    rwa [inner, whole] at trimmed
  · rintro ⟨whole, wholeEnd⟩
    have inner : trimChars chars = (chars.dropWhile isBlank).rdropWhile isBlank := rfl
    rw [inner, whole, wholeEnd]

/-- Trimming leaves a text with no blank at either end. -/
theorem trim_eq_self_iff {text : String} : trim text = text ↔
    (∀ char ∈ text.toList.head?, isBlank char = false) ∧
      ∀ char ∈ text.toList.getLast?, isBlank char = false := by
  rw [← trimChars_eq_self_iff, trim, ← String.toList_inj, String.toList_ofList]

/-- Nothing is left to trim of what has been trimmed. -/
theorem trimChars_trimChars (chars : List Char) :
    trimChars (trimChars chars) = trimChars chars := by
  have starts : trimStartChars (trimChars chars) = trimChars chars := by
    have within : trimChars chars <+: chars.dropWhile isBlank := List.rdropWhile_prefix ..
    cases trimmed : trimChars chars with
    | nil => rfl
    | cons char rest =>
        obtain ⟨ending, whole⟩ := within
        rw [trimmed, List.cons_append] at whole
        have solid : isBlank char = false := by
          have first := List.dropWhile_get_zero_not (p := isBlank) chars (by simp [← whole])
          simpa [← whole] using first
        rw [trimStartChars, List.dropWhile_cons, solid]
        rfl
  rw [trimChars, starts]
  exact List.rdropWhile_idempotent ..

/-- A trimmed text has no blanks around it. -/
theorem trim_trim (text : String) : trim (trim text) = trim text := by
  rw [trim, trim, String.toList_ofList, trimChars_trimChars]

/-- A character that is not blank stays when a text is trimmed. -/
theorem mem_trim {text : String} {char : Char} (member : char ∈ text.toList)
    (solid : isBlank char = false) : char ∈ (trim text).toList := by
  obtain ⟨start, ending, whole, blankStart, blankEnding⟩ := exists_trimChars_append text.toList
  have apart {blanks : List Char} (blank : ∀ other ∈ blanks, isBlank other = true) :
      char ∉ blanks := fun among => by
    rw [blank char among] at solid
    cases solid
  rw [whole, List.mem_append, List.mem_append] at member
  rw [trim, String.toList_ofList]
  exact (member.resolve_left (apart blankStart)).resolve_right (apart blankEnding)

/-- Nothing is left of a text that is trimmed exactly when all of it is blank. -/
theorem trim_eq_empty_iff {text : String} :
    trim text = "" ↔ ∀ char ∈ text.toList, isBlank char = true := by
  constructor
  · intro isEmpty char member
    by_contra visible
    have stays := mem_trim member (Bool.eq_false_iff.2 visible)
    rw [isEmpty] at stays
    exact List.not_mem_nil stays
  · intro blank
    rw [trim, trimChars, trimStartChars, List.dropWhile_eq_nil_iff.2 blank]
    rfl

/-- Nothing is left of nothing. -/
@[simp] theorem trim_empty : trim "" = "" :=
  trim_eq_empty_iff.2 (by simp)

/-! ## Blanks at the end -/

/-- Trimming leaves something of characters that are not all blank. -/
theorem dropWhile_isBlank_ne_nil {chars : List Char} (held : ∃ char ∈ chars, isBlank char = false) :
    chars.reverse.dropWhile isBlank ≠ [] := by
  obtain ⟨char, member, visible⟩ := held
  intro isEmpty
  have blank := List.dropWhile_eq_nil_iff.1 isEmpty char (List.mem_reverse.2 member)
  rw [visible] at blank
  cases blank

/-- Only what stands last is trimmed, when there is something in it that is not blank. -/
theorem trimEnd_append (left : String) {right : String}
    (held : ∃ char ∈ right.toList, isBlank char = false) :
    trimEnd (left ++ right) = left ++ trimEnd right := by
  have stays := List.isEmpty_eq_false_iff.2 (dropWhile_isBlank_ne_nil held)
  apply String.toList_injective
  simp [trimEnd, trimEndChars, List.dropWhile_append, stays]

/-- Trimming adds no character. -/
theorem mem_of_mem_trimEnd {text : String} {char : Char} (member : char ∈ (trimEnd text).toList) :
    char ∈ text.toList := by
  rw [trimEnd, String.toList_ofList, trimEndChars, List.mem_reverse] at member
  exact List.mem_reverse.1 ((List.dropWhile_sublist _).mem member)

/-- A text is what is left of it when it is trimmed, with something behind. -/
theorem exists_trimEnd_append (text : String) : ∃ ending, text = trimEnd text ++ ending := by
  refine ⟨String.ofList (text.toList.reverse.takeWhile isBlank).reverse, ?_⟩
  apply String.toList_injective
  rw [String.toList_append, trimEnd, String.toList_ofList, String.toList_ofList, trimEndChars,
    ← List.reverse_append, List.takeWhile_append_dropWhile, List.reverse_reverse]

/-- A trimmed text begins with its start, as far as that is not trimmed as well. -/
theorem beginsWith_trimEnd_append (start rest : String) :
    beginsWith (trimEnd (start ++ rest)) (trimEnd start) = true := by
  by_cases held : ∃ char ∈ rest.toList, isBlank char = false
  · obtain ⟨ending, whole⟩ := exists_trimEnd_append start
    have begins : beginsWith start (trimEnd start) = true := by
      have stands := beginsWith_append (trimEnd start) ending
      rwa [← whole] at stands
    rw [trimEnd_append start held]
    exact beginsWith_append_right begins _
  · have blank : ∀ char ∈ rest.toList.reverse, isBlank char = true := by
      simpa using held
    have same : trimEnd (start ++ rest) = trimEnd start := by
      apply String.toList_injective
      simp [trimEnd, trimEndChars, List.dropWhile_append, List.dropWhile_eq_nil_iff.2 blank]
    rw [same]
    simpa using beginsWith_append (trimEnd start) ""

/-- What trimming leaves as it is begins a trimmed text exactly when it begins the text. -/
theorem beginsWith_trimEnd {text start : String} (sharp : trimEnd start = start) :
    beginsWith (trimEnd text) start = beginsWith text start := by
  rw [Bool.eq_iff_iff]
  constructor
  · intro begins
    obtain ⟨ending, whole⟩ := exists_trimEnd_append text
    rw [whole]
    exact beginsWith_append_right begins ending
  · intro begins
    obtain ⟨rest, rfl⟩ := exists_eq_append_of_beginsWith begins
    have trimmed := beginsWith_trimEnd_append start rest
    rwa [sharp] at trimmed

end ApiStubs.Text
