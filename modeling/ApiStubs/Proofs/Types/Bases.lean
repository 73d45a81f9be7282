import ApiStubs.Proofs.Types.Arrays
import ApiStubs.Proofs.Types.Regrouping

/-!
# Types that are read once more

A type that has been written can be read again. What the reading meets is decided at the ends of
the type and at its parentheses:

- a text is trimmed when no blank stands at either end (`Text.trim_eq_self_iff`), so an alternative
  loses blanks only when they stand directly in front of its brackets (`isSpaced_iff`), and
- brackets behind a type and braces around it are plain symbols, which open and close nothing, so
  an array reads as one type when the type of its members does.
-/

namespace ApiStubs.Types

open ApiStubs.Value
open ApiStubs.Text (trim_trim)

/-! ## Plain symbols -/

/-- Plain symbols are one piece, whatever is open in front of them. -/
theorem cutBars_of_plain {α : Type} {mark : α → Mark} {symbols : List α}
    (plain : ∀ symbol ∈ symbols, mark symbol = .plain) (depth : Nat) :
    cutBars mark depth symbols = [symbols] := by
  induction symbols generalizing depth with
  | nil => rfl
  | cons symbol rest inductionHypothesis =>
      obtain ⟨first, others⟩ := List.forall_mem_cons.1 plain
      rw [cutBars_cons_eq_singleton, first]
      exact ⟨by simp, inductionHypothesis others depth⟩

/-- The symbols behind others begin at the depth that those leave. -/
theorem depthThrough_append {α : Type} (mark : α → Mark) (depth : Nat) (left right : List α) :
    depthThrough mark depth (left ++ right) =
      depthThrough mark (depthThrough mark depth left) right :=
  List.foldl_append

/-- A balanced sequence leaves nothing open. -/
theorem depthThrough_of_isBalancedFrom {depth : Nat} {chars : List Char}
    (balanced : isBalancedFrom depth chars = true) : depthThrough charMark depth chars = 0 := by
  induction chars generalizing depth with
  | nil => exact beq_iff_eq.1 balanced
  | cons char rest inductionHypothesis =>
      exact inductionHypothesis (isBalancedFrom_cons.1 balanced).2

/-- A balanced text leaves nothing open. -/
theorem openBehind_of_isBalanced {text : String} (balanced : isBalanced text = true) :
    openBehind text = 0 :=
  depthThrough_of_isBalancedFrom balanced

/-- A text whose symbols are all plain. -/
def IsPlain (text : String) : Prop :=
  ∀ char ∈ text.toList, charMark char = .plain

instance (text : String) : Decidable (IsPlain text) :=
  List.decidableBAll (fun char => charMark char = .plain) text.toList

/-- Nothing is plain. -/
theorem isPlain_empty : IsPlain "" := by
  decide

/-- Brackets are plain. -/
theorem isPlain_brackets (depth : Nat) : IsPlain (brackets depth) := by
  induction depth with
  | zero => decide
  | succ depth inductionHypothesis =>
      have pair : IsPlain "[]" := by decide
      rw [IsPlain, brackets, String.toList_append, List.forall_mem_append]
      exact ⟨pair, inductionHypothesis⟩

/-- A text is one piece exactly when its characters are. -/
theorem textPieces_eq_singleton_iff {text : String} :
    textPieces text = [text] ↔ cutBars charMark 0 text.toList = [text.toList] := by
  rw [← map_toList_textPieces]
  constructor
  · intro whole
    rw [whole, List.map_singleton]
  · intro whole
    obtain ⟨piece, isPiece, same⟩ := List.map_eq_singleton_iff.1 whole
    rw [isPiece, String.toList_injective same]

section Around

variable {start ending : String} (plainStart : IsPlain start) (plainEnding : IsPlain ending)

include plainStart plainEnding

/-- Plain symbols around a text leave open what the text leaves open. -/
theorem openBehind_around (text : String) :
    openBehind (start ++ text ++ ending) = openBehind text := by
  simp only [openBehind, String.toList_append, depthThrough_append]
  rw [depthThrough_of_plain plainEnding, depthThrough_of_plain plainStart]

/-- A text with plain symbols around it is one piece exactly when the text is. -/
theorem textPieces_around {text : String} :
    textPieces (start ++ text ++ ending) = [start ++ text ++ ending] ↔
      textPieces text = [text] := by
  rw [textPieces_eq_singleton_iff, textPieces_eq_singleton_iff, String.toList_append,
    String.toList_append, cutBars_append_eq_singleton, cutBars_append_eq_singleton,
    depthThrough_of_plain plainStart]
  simp [cutBars_of_plain plainStart, cutBars_of_plain plainEnding]

end Around

/-! ## Reading a type again -/

instance (text : String) : Decidable (ReadsAsOne text) :=
  inferInstanceAs (Decidable (trimPieces (textPieces text) = [text]))

/-- A text reads as one type when it is one piece with nothing to trim, and not empty. -/
theorem readsAsOne_iff {text : String} :
    ReadsAsOne text ↔ textPieces text = [text] ∧ Text.trim text = text ∧ text ≠ "" := by
  constructor
  · intro reads
    obtain ⟨⟨piece, isPiece, trimmed⟩, nonempty⟩ :=
      mem_trimPieces.1 (reads ▸ List.mem_singleton_self text)
    refine ⟨?_, ?_, nonempty⟩
    · rw [← trimmed, textPieces_trim isPiece]
    · rw [← trimmed, trim_trim]
  · rintro ⟨whole, trimmed, nonempty⟩
    simp [ReadsAsOne, whole, trimPieces, trimmed, nonempty]

/-- The alternatives of a documented type read as one type each, and leave nothing open when the
texts that the type is written with are balanced. -/
theorem readsAsOne_of_mem_alternatives {documented : Value}
    (shaped : documented.IsText ∨ documented.IsListOf IsText) {pieces : List String}
    (read : alternatives documented = .ok pieces) {raw : String} (among : raw ∈ pieces) :
    ReadsAsOne raw ∧ ((∀ text, IsWrittenWith text documented → isBalanced text = true) →
      openBehind raw = 0) := by
  obtain ⟨texts, written, readTexts⟩ := exists_texts shaped
  obtain rfl := Except.ok.inj (readTexts.symm.trans read)
  obtain ⟨text, isText, isAlternative⟩ := List.mem_flatMap.1 among
  refine ⟨trimPieces_alternative isAlternative, fun balanced => ?_⟩
  obtain ⟨⟨piece, isPiece, rfl⟩, _⟩ := mem_trimPieces.1 isAlternative
  exact openBehind_of_isBalanced (isBalanced_trim (balanced text (written text isText)) isPiece)

/-- A type that does not end with a closing bracket has no brackets to split off. -/
theorem splitBrackets_of_getLast? {type : String} (ends : type.toList.getLast? ≠ some ']') :
    splitBrackets type = (type, 0) := by
  have unbracketed : takeBrackets type.toList.reverse = (type.toList.reverse, 0) :=
    takeBrackets.eq_2 _ fun rest isOpened => by
      rw [← List.head?_reverse, isOpened] at ends
      exact ends rfl
  simp [splitBrackets, unbracketed]

/-- The base of a type that is one piece is one piece. -/
theorem textPieces_base {type : String} (whole : textPieces type = [type]) :
    textPieces (splitBrackets type).1 = [(splitBrackets type).1] := by
  rw [← textPieces_around isPlain_empty
    (isPlain_brackets (splitBrackets type).2), String.empty_append, base_append_brackets]
  exact whole

/-- The base of a type leaves open what the type leaves open. -/
theorem openBehind_base (type : String) : openBehind (splitBrackets type).1 = openBehind type := by
  rw [← openBehind_around isPlain_empty
    (isPlain_brackets (splitBrackets type).2), String.empty_append, base_append_brackets]

namespace ReadsAsOne

variable {type : String}

/-- Brackets behind a type leave it one type. -/
theorem append_brackets (reads : ReadsAsOne type) (depth : Nat) :
    ReadsAsOne (type ++ brackets depth) := by
  obtain ⟨whole, trimmed, nonempty⟩ := readsAsOne_iff.1 reads
  have nonemptyChars : type.toList ≠ [] := by simpa using nonempty
  refine readsAsOne_iff.2 ⟨?_, ?_, ?_⟩
  · rw [← String.empty_append (s := type)]
    exact (textPieces_around isPlain_empty (isPlain_brackets depth)).2 whole
  · obtain ⟨starts, ends⟩ := Text.trim_eq_self_iff.1 trimmed
    refine Text.trim_eq_self_iff.2 ⟨?_, ?_⟩
    · rw [String.toList_append, List.head?_append_of_ne_nil _ nonemptyChars]
      exact starts
    · cases depth with
      | zero => simpa [brackets] using ends
      | succ depth =>
          rw [brackets_succ]
          have solid : Text.isBlank ']' = false := by decide
          simp [solid]
  · simp [nonempty]

/-- Braces around a type make one type of it. -/
theorem braces (reads : ReadsAsOne type) : ReadsAsOne ("\x7b" ++ type ++ "\x7d") := by
  obtain ⟨whole, _, _⟩ := readsAsOne_iff.1 reads
  refine readsAsOne_iff.2 ⟨?_, ?_, ?_⟩
  · exact (textPieces_around (by decide) (by decide)).2 whole
  · have opening : Text.isBlank '\x7b' = false := by decide
    have closing : Text.isBlank '\x7d' = false := by decide
    have chars : ("\x7b" ++ type ++ "\x7d").toList = '\x7b' :: (type.toList ++ ['\x7d']) := by simp
    rw [Text.trim_eq_self_iff, chars]
    simp [opening, closing, List.getLast?_cons]
  · simp

end ReadsAsOne

/-! ## Blanks in front of brackets -/

/-- A type with a blank directly in front of the brackets behind it. -/
def IsSpaced (type : String) : Prop :=
  ∃ before blank depth, Text.isBlank blank = true ∧
    type = before ++ String.singleton blank ++ brackets (depth + 1)

/-- A trimmed type has a blank in front of its brackets exactly when its base can be trimmed. -/
theorem isSpaced_iff {type : String} (trimmed : Text.trim type = type) :
    IsSpaced type ↔ Text.trim (splitBrackets type).1 ≠ (splitBrackets type).1 := by
  constructor
  · rintro ⟨before, blank, depth, isBlank, rfl⟩
    have ends : (before ++ String.singleton blank).toList.getLast? = some blank := by simp
    have unbracketed : splitBrackets (before ++ String.singleton blank) =
        (before ++ String.singleton blank, 0) := by
      refine splitBrackets_of_getLast? ?_
      rw [ends]
      rintro same
      obtain rfl := Option.some.inj same
      exact absurd isBlank (by decide)
    rw [splitBrackets_append, unbracketed]
    intro solid
    have ofEnd := (Text.trim_eq_self_iff.1 solid).2 blank ends
    rw [isBlank] at ofEnd
    cases ofEnd
  · intro loses
    have whole := base_append_brackets type
    have starts : ∀ char ∈ (splitBrackets type).1.toList.head?, Text.isBlank char = false := by
      intro char isFirst
      refine (Text.trim_eq_self_iff.1 trimmed).1 char ?_
      rw [← whole, String.toList_append, Option.mem_def, List.head?_append, isFirst]
      rfl
    obtain ⟨blank, isLast, isBlank⟩ : ∃ blank ∈ (splitBrackets type).1.toList.getLast?,
        Text.isBlank blank = true := by
      by_contra solid
      refine loses (Text.trim_eq_self_iff.2 ⟨starts, fun char isLast => ?_⟩)
      exact Bool.eq_false_iff.2 fun isBlank => solid ⟨char, isLast, isBlank⟩
    obtain ⟨before, isBase⟩ := List.getLast?_eq_some_iff.1 isLast
    cases isDepth : (splitBrackets type).2 with
    | zero =>
        rw [isDepth, brackets, String.append_empty] at whole
        rw [whole] at loses
        exact absurd trimmed loses
    | succ depth =>
        refine ⟨String.ofList before, blank, depth, isBlank, ?_⟩
        have isSpacedBase : (splitBrackets type).1 =
            String.ofList before ++ String.singleton blank := by
          apply String.toList_injective
          simp [isBase]
        rw [← isSpacedBase, ← isDepth, whole]

/-! ## Types that stay -/

namespace Speller

/-- A type that a speller leaves as it is: one type without brackets, which leaves nothing open, has
no substitution and is its own spelling. -/
structure Stays (speller : Speller) (type : String) : Prop where
  reads : ReadsAsOne type
  closed : openBehind type = 0
  unbracketed : splitBrackets type = (type, 0)
  free : speller.dialect.substitutions.get? type = none
  spelled : speller.spellSubstitute 0 type = .ok (.text type)

namespace Stays

variable {speller : Speller} {type : String} (stays : speller.Stays type)

include stays

/-- Inside arrays, such a type is spelled as their members. -/
theorem spellSubstitute_eq (depth : Nat) : speller.spellSubstitute depth type =
    arrayOf speller.dialect.arrayPattern (.text type) depth := by
  rw [← Nat.zero_add depth, spellSubstitute_add, stays.spelled, Outcome.ok_bind, Nat.zero_add]

/-- Without an override, an alternative is spelled as arrays of such a type that stands in its
place. -/
theorem spellAlternative_of_standIn {raw : String} {site : Site}
    (kept : speller.dialect.overrideOf (.text raw) site = .ok .null)
    (stands : speller.standIn (splitBrackets raw).1 = .text type) :
    speller.spellAlternative (.text raw) site =
      (do return [← arrayOf speller.dialect.arrayPattern (.text type) (splitBrackets raw).2]) := by
  have read : alternatives (.text type) = .ok [type] := congrArg Except.ok stays.reads
  rw [spellAlternative_of_kept kept, stands, read, Outcome.ok_bind, List.mapM_cons,
    stays.spellSubstitute_eq]
  rfl

/-- Nothing stands in place of such a type. -/
theorem standIn_eq : speller.standIn type = .text type := by
  rw [standIn, stays.free]
  rfl

end Stays

end Speller

end ApiStubs.Types
