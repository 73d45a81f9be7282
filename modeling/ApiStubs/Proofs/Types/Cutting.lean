import ApiStubs.Proofs.Outcome
import ApiStubs.Proofs.Text.Trimming
import ApiStubs.Proofs.Value.Shape
import ApiStubs.Types.Union
import Mathlib.Data.Set.List

/-!
# Where a union is cut

A union is cut at the bars in front of which no parenthesis is open, and nowhere else:

- joining the pieces with bars gives the text back (`joinChars_cutBars`),
- a bar is a cut exactly when the text in front of it leaves nothing open (`isCutBetween_iff`).

The scan of a piece on its own meets the depths that it met in the whole, also behind a closing
parenthesis that has no opening one. So a piece, and what is left of it when it is trimmed, is not
cut again (`cutBars_piece`, `textPieces_trim`), and the pieces of a balanced text are balanced
(`isBalancedFrom_cutBars`).
-/

namespace ApiStubs.Types

open ApiStubs.Value
open ApiStubs.Text (trim_trim)

/-! ## Symbols -/

section Symbols

variable {α : Type} {mark : α → Mark}

/-- Plain symbols open and close nothing. -/
theorem depthThrough_of_plain {depth : Nat} {symbols : List α}
    (plain : ∀ symbol ∈ symbols, mark symbol = .plain) :
    depthThrough mark depth symbols = depth := by
  induction symbols with
  | nil => rfl
  | cons symbol rest inductionHypothesis =>
      obtain ⟨first, others⟩ := List.forall_mem_cons.1 plain
      rw [depthThrough, List.foldl_cons, first]
      exact inductionHypothesis others

/-- A symbol in front of the first of several pieces. -/
theorem pushSymbol_append (symbol : α) {pieces : List (List α)} (nonempty : pieces ≠ [])
    (others : List (List α)) :
    pushSymbol symbol (pieces ++ others) = pushSymbol symbol pieces ++ others := by
  cases pieces with
  | nil => exact absurd rfl nonempty
  | cons first rest => rfl

/-- A sequence has a first piece. -/
theorem exists_cutBars (mark : α → Mark) (depth : Nat) (symbols : List α) :
    ∃ first others, cutBars mark depth symbols = first :: others :=
  List.exists_cons_of_ne_nil (cutBars_ne_nil mark depth symbols)

/-- A bar behind a sequence that leaves nothing open is a cut, whatever stands on both sides. -/
theorem cutBars_append_bar {depth : Nat} {left : List α}
    (closed : depthThrough mark depth left = 0) {bar : α} (isBar : mark bar = .bar)
    (right : List α) :
    cutBars mark depth (left ++ bar :: right) =
      cutBars mark depth left ++ cutBars mark 0 right := by
  induction left generalizing depth with
  | nil =>
      obtain rfl : depth = 0 := closed
      simp [cutBars, isBar]
  | cons symbol rest inductionHypothesis =>
      simp only [List.cons_append, cutBars]
      split
      · next isCut =>
          have later : depthThrough mark 0 rest = 0 := by
            rw [depthThrough, List.foldl_cons, isCut.1, isCut.2] at closed
            exact closed
          rw [inductionHypothesis later]
          rfl
      · rw [inductionHypothesis closed, pushSymbol_append symbol (cutBars_ne_nil _ _ _)]

/-- A sequence that begins with a symbol is one piece exactly when the symbol is no cut and the rest
is one piece behind it. -/
theorem cutBars_cons_eq_singleton {depth : Nat} {symbol : α} {rest : List α} :
    cutBars mark depth (symbol :: rest) = [symbol :: rest] ↔
      ¬(mark symbol = .bar ∧ depth = 0) ∧
        cutBars mark (depthAfter depth (mark symbol)) rest = [rest] := by
  rw [cutBars]
  split
  · next isCut => simp [isCut]
  · next noCut =>
      obtain ⟨first, others, cut⟩ :=
        exists_cutBars mark (depthAfter depth (mark symbol)) rest
      simp [cut, pushSymbol, noCut]

/-- A sequence is one piece exactly when both of its parts are, each at the depth at which it is
reached. -/
theorem cutBars_append_eq_singleton {depth : Nat} {left right : List α} :
    cutBars mark depth (left ++ right) = [left ++ right] ↔
      cutBars mark depth left = [left] ∧
        cutBars mark (depthThrough mark depth left) right = [right] := by
  induction left generalizing depth with
  | nil => simp [cutBars, depthThrough]
  | cons symbol rest inductionHypothesis =>
      rw [List.cons_append, cutBars_cons_eq_singleton, cutBars_cons_eq_singleton,
        inductionHypothesis, and_assoc]
      rfl

/-- The pieces of a sequence are not cut again. The first one is reached at the depth of the whole,
and every other one behind a cut. -/
theorem cutBars_piece {depth : Nat} {symbols first : List α} {others : List (List α)}
    (cut : cutBars mark depth symbols = first :: others) :
    cutBars mark depth first = [first] ∧
      ∀ piece ∈ others, cutBars mark 0 piece = [piece] := by
  induction symbols generalizing depth first others with
  | nil =>
      obtain ⟨rfl, rfl⟩ := List.cons.inj cut
      simp [cutBars]
  | cons symbol rest inductionHypothesis =>
      rw [cutBars] at cut
      split at cut
      · obtain ⟨rfl, rfl⟩ := List.cons.inj cut
        obtain ⟨second, more, cutRest⟩ := exists_cutBars mark 0 rest
        obtain ⟨whole, wholes⟩ := inductionHypothesis cutRest
        rw [cutRest]
        exact ⟨rfl, List.forall_mem_cons.2 ⟨whole, wholes⟩⟩
      · next noCut =>
          obtain ⟨second, more, cutRest⟩ :=
            exists_cutBars mark (depthAfter depth (mark symbol)) rest
          obtain ⟨whole, wholes⟩ := inductionHypothesis cutRest
          rw [cutRest] at cut
          obtain ⟨rfl, rfl⟩ := List.cons.inj cut
          exact ⟨cutBars_cons_eq_singleton.2 ⟨noCut, whole⟩, wholes⟩

/-- What stands between plain symbols at the ends of one piece is one piece. -/
theorem cutBars_of_plain_around {start inner ending : List α}
    (plain : ∀ symbol ∈ start, mark symbol = .plain)
    (whole : cutBars mark 0 (start ++ (inner ++ ending)) = [start ++ (inner ++ ending)]) :
    cutBars mark 0 inner = [inner] := by
  have behind := (cutBars_append_eq_singleton.1 whole).2
  rw [depthThrough_of_plain plain] at behind
  exact (cutBars_append_eq_singleton.1 behind).1

end Symbols

/-! ## Characters -/

/-- The bar is the only character at which a text is cut. -/
theorem charMark_eq_bar {char : Char} : charMark char = .bar ↔ char = '|' := by
  rw [charMark]
  split
  · next opening => simp [opening]
  · split
    · next closing => simp [closing]
    · split <;> simp_all

/-- A blank character is a plain one. -/
theorem charMark_of_isBlank {char : Char} (blank : Text.isBlank char = true) :
    charMark char = .plain := by
  rw [charMark]
  split
  · next opening =>
      subst opening
      exact absurd blank (by decide)
  · split
    · next closing =>
        subst closing
        exact absurd blank (by decide)
    · split
      · next bar =>
          subst bar
          exact absurd blank (by decide)
      · rfl

/-- A character in front of the first piece stands in front of the join. -/
theorem joinChars_pushSymbol (char : Char) {pieces : List (List Char)} (nonempty : pieces ≠ [])
    (separator : List Char) :
    Text.joinChars separator (pushSymbol char pieces) =
      char :: Text.joinChars separator pieces := by
  cases pieces with
  | nil => exact absurd rfl nonempty
  | cons first rest => cases rest <;> rfl

/-- An empty piece in front of others is a separator in front of their join. -/
theorem joinChars_nil_cons (separator : List Char) {pieces : List (List Char)}
    (nonempty : pieces ≠ []) :
    Text.joinChars separator ([] :: pieces) = separator ++ Text.joinChars separator pieces := by
  cases pieces with
  | nil => exact absurd rfl nonempty
  | cons first rest => rfl

/-- Joining the pieces with bars gives the sequence back. -/
theorem joinChars_cutBars (depth : Nat) (chars : List Char) :
    Text.joinChars ['|'] (cutBars charMark depth chars) = chars := by
  induction chars generalizing depth with
  | nil => rfl
  | cons char rest inductionHypothesis =>
      rw [cutBars]
      split
      · next isCut =>
          rw [joinChars_nil_cons _ (cutBars_ne_nil _ _ _), inductionHypothesis,
            charMark_eq_bar.1 isCut.1]
          rfl
      · rw [joinChars_pushSymbol _ (cutBars_ne_nil _ _ _), inductionHypothesis]

/-- What stands in front of a cut leaves nothing open. -/
theorem depthThrough_of_cutBars_eq_append {depth : Nat} {chars : List Char}
    {left right : List (List Char)} (cut : cutBars charMark depth chars = left ++ right)
    (nonempty : left ≠ []) (nonemptyRight : right ≠ []) :
    depthThrough charMark depth (Text.joinChars ['|'] left) = 0 := by
  induction chars generalizing depth left with
  | nil =>
      rcases List.append_eq_singleton_iff.1 cut.symm with ⟨isNil, _⟩ | ⟨_, isNil⟩
      · exact absurd isNil nonempty
      · exact absurd isNil nonemptyRight
  | cons char rest inductionHypothesis =>
      obtain ⟨first, others, rfl⟩ := List.exists_cons_of_ne_nil nonempty
      rw [cutBars, List.cons_append] at cut
      split at cut
      · next isCut =>
          obtain ⟨rfl, cutRest⟩ := List.cons.inj cut
          by_cases isLast : others = []
          · rw [isLast]
            exact isCut.2
          · rw [joinChars_nil_cons _ isLast, isCut.2]
            exact inductionHypothesis cutRest isLast
      · obtain ⟨second, more, cutRest⟩ :=
          exists_cutBars charMark (depthAfter depth (charMark char)) rest
        rw [cutRest] at cut
        obtain ⟨rfl, rfl⟩ := List.cons.inj cut
        have nonemptyOthers : second :: others ≠ [] := List.cons_ne_nil second others
        have pushed : Text.joinChars ['|'] ((char :: second) :: others) =
            char :: Text.joinChars ['|'] (second :: others) :=
          joinChars_pushSymbol char nonemptyOthers ['|']
        rw [pushed]
        exact inductionHypothesis cutRest nonemptyOthers

/-! ## Balanced parentheses -/

/-- Whether every parenthesis has its partner, given the number that are open in front: no closing
one lacks its opening one, and none stays open. -/
def isBalancedFrom : Nat → List Char → Bool
  | depth, [] => depth == 0
  | depth, char :: rest =>
      match charMark char with
      | .opening => isBalancedFrom (depth + 1) rest
      | .closing => depth != 0 && isBalancedFrom (depth - 1) rest
      | _ => isBalancedFrom depth rest

/-- Whether the parentheses of a text are balanced. -/
def isBalanced (text : String) : Bool :=
  isBalancedFrom 0 text.toList

/-- A character in front of balanced ones: a closing parenthesis needs an open one, and the rest is
balanced at the depth behind the character. -/
theorem isBalancedFrom_cons {depth : Nat} {char : Char} {rest : List Char} :
    isBalancedFrom depth (char :: rest) = true ↔
      (charMark char = .closing → depth ≠ 0) ∧
        isBalancedFrom (depthAfter depth (charMark char)) rest = true := by
  rw [isBalancedFrom]
  cases charMark char <;> simp [depthAfter]

/-- Plain characters in front of others do not matter to their balance. -/
theorem isBalancedFrom_append_left {depth : Nat} {start : List Char}
    (plain : ∀ char ∈ start, charMark char = .plain) (rest : List Char) :
    isBalancedFrom depth (start ++ rest) = isBalancedFrom depth rest := by
  induction start with
  | nil => rfl
  | cons char more inductionHypothesis =>
      obtain ⟨first, others⟩ := List.forall_mem_cons.1 plain
      rw [List.cons_append, isBalancedFrom, first]
      exact inductionHypothesis others

/-- Plain characters behind others do not matter to their balance. -/
theorem isBalancedFrom_append_right {ending : List Char}
    (plain : ∀ char ∈ ending, charMark char = .plain) (depth : Nat) (chars : List Char) :
    isBalancedFrom depth (chars ++ ending) = isBalancedFrom depth chars := by
  induction chars generalizing depth with
  | nil =>
      have blank : isBalancedFrom depth (ending ++ []) = isBalancedFrom depth [] :=
        isBalancedFrom_append_left plain []
      rwa [List.append_nil] at blank
  | cons char rest inductionHypothesis =>
      simp only [List.cons_append, isBalancedFrom, inductionHypothesis]

/-- The pieces of a balanced sequence are balanced: the first one at the depth of the whole, and
every other one on its own. -/
theorem isBalancedFrom_cutBars {depth : Nat} {chars first : List Char}
    {others : List (List Char)} (balanced : isBalancedFrom depth chars = true)
    (cut : cutBars charMark depth chars = first :: others) :
    isBalancedFrom depth first = true ∧ ∀ piece ∈ others, isBalancedFrom 0 piece = true := by
  induction chars generalizing depth first others with
  | nil =>
      obtain ⟨rfl, rfl⟩ := List.cons.inj cut
      exact ⟨balanced, by simp⟩
  | cons char rest inductionHypothesis =>
      obtain ⟨hasOpening, balancedRest⟩ := isBalancedFrom_cons.1 balanced
      rw [cutBars] at cut
      split at cut
      · next isCut =>
          obtain ⟨rfl, rfl⟩ := List.cons.inj cut
          obtain ⟨second, more, cutRest⟩ := exists_cutBars charMark 0 rest
          rw [isCut.1, isCut.2] at balancedRest
          obtain ⟨next, later⟩ := inductionHypothesis balancedRest cutRest
          rw [cutRest, isCut.2]
          exact ⟨rfl, List.forall_mem_cons.2 ⟨next, later⟩⟩
      · obtain ⟨second, more, cutRest⟩ :=
          exists_cutBars charMark (depthAfter depth (charMark char)) rest
        obtain ⟨next, later⟩ := inductionHypothesis balancedRest cutRest
        rw [cutRest] at cut
        obtain ⟨rfl, rfl⟩ := List.cons.inj cut
        exact ⟨isBalancedFrom_cons.2 ⟨hasOpening, next⟩, later⟩

/-! ## Trimming -/

/-- A sequence is what is left of it when it is trimmed, between plain symbols. -/
theorem exists_plain_around (chars : List Char) :
    ∃ start ending, chars = start ++ (Text.trimChars chars ++ ending) ∧
      (∀ char ∈ start, charMark char = .plain) ∧ ∀ char ∈ ending, charMark char = .plain := by
  obtain ⟨start, ending, whole, blankStart, blankEnding⟩ := Text.exists_trimChars_append chars
  exact ⟨start, ending, whole, fun char member => charMark_of_isBlank (blankStart char member),
    fun char member => charMark_of_isBlank (blankEnding char member)⟩

/-- What is left of a piece when it is trimmed is not cut again. -/
theorem textPieces_trim {text piece : String} (isPiece : piece ∈ textPieces text) :
    textPieces (Text.trim piece) = [Text.trim piece] := by
  obtain ⟨chars, among, rfl⟩ := List.mem_map.1 isPiece
  have whole : cutBars charMark 0 chars = [chars] := by
    obtain ⟨first, others, cut⟩ := exists_cutBars charMark 0 text.toList
    rw [cut] at among
    obtain ⟨wholeFirst, wholes⟩ := cutBars_piece cut
    rcases List.mem_cons.1 among with rfl | later
    · exact wholeFirst
    · exact wholes chars later
  obtain ⟨start, ending, around, plain, _⟩ := exists_plain_around chars
  have inner : cutBars charMark 0 (Text.trimChars chars) = [Text.trimChars chars] := by
    rw [around] at whole
    exact cutBars_of_plain_around plain whole
  rw [textPieces, Text.trim, String.toList_ofList, String.toList_ofList, inner]
  rfl

/-- What is left of a piece of a balanced text when it is trimmed is balanced. -/
theorem isBalanced_trim {text piece : String} (balanced : isBalanced text = true)
    (isPiece : piece ∈ textPieces text) : isBalanced (Text.trim piece) = true := by
  obtain ⟨chars, among, rfl⟩ := List.mem_map.1 isPiece
  have balancedPiece : isBalancedFrom 0 chars = true := by
    obtain ⟨first, others, cut⟩ := exists_cutBars charMark 0 text.toList
    rw [cut] at among
    obtain ⟨balancedFirst, balancedOthers⟩ := isBalancedFrom_cutBars balanced cut
    rcases List.mem_cons.1 among with rfl | later
    · exact balancedFirst
    · exact balancedOthers chars later
  obtain ⟨start, ending, around, plain, plainEnding⟩ := exists_plain_around chars
  rw [around, isBalancedFrom_append_left plain, isBalancedFrom_append_right plainEnding]
    at balancedPiece
  rwa [isBalanced, Text.trim, String.toList_ofList, String.toList_ofList]

/-! ## Alternatives -/

/-- The alternatives are the trimmed pieces that are not empty. -/
theorem mem_trimPieces {pieces : List String} {type : String} :
    type ∈ trimPieces pieces ↔ (∃ piece ∈ pieces, Text.trim piece = type) ∧ type ≠ "" := by
  simp [trimPieces]

/-- Pieces are trimmed one by one. -/
theorem trimPieces_flatten (pieces : List (List String)) :
    trimPieces pieces.flatten = pieces.flatMap trimPieces := by
  induction pieces with
  | nil => rfl
  | cons first rest inductionHypothesis =>
      rw [List.flatten_cons, List.flatMap_cons, ← inductionHypothesis]
      simp [trimPieces]

/-- An alternative of a text is its own only alternative. -/
theorem trimPieces_alternative {text type : String}
    (isAlternative : type ∈ trimPieces (textPieces text)) :
    trimPieces (textPieces type) = [type] := by
  obtain ⟨⟨piece, isPiece, rfl⟩, nonempty⟩ := mem_trimPieces.1 isAlternative
  rw [textPieces_trim isPiece]
  simp [trimPieces, trim_trim, nonempty]

/-- A list of texts has the alternatives of its members, one after the other. -/
theorem alternatives_ofTexts (texts : List String) :
    alternatives (.ofTexts texts) =
      .ok (texts.flatMap fun text => trimPieces (textPieces text)) := by
  have read : (texts.map Value.text).mapM memberPieces = .ok (texts.map textPieces) := by
    rw [List.mapM_map]
    exact Outcome.mapM_eq_map fun _ _ => rfl
  have opened : alternatives (.ofTexts texts) = do
      return trimPieces (← (texts.map Value.text).mapM memberPieces).flatten := rfl
  rw [opened, read, Outcome.ok_bind, trimPieces_flatten, List.flatMap_map]
  rfl

/-- A text that a documented type is written with: the type itself, or a member of a list. -/
inductive IsWrittenWith (text : String) : Value → Prop
  | whole : IsWrittenWith text (.text text)
  | member {members : List Value} (among : .text text ∈ members) :
      IsWrittenWith text (.list members)

/-- A list of texts is written with these. -/
theorem forall_isWrittenWith_ofTexts (texts : List String) {holds : String → Prop}
    (each : ∀ text ∈ texts, holds text) (text : String)
    (written : IsWrittenWith text (.ofTexts texts)) : holds text := by
  cases written with
  | member among =>
      obtain ⟨other, isText, same⟩ := List.mem_map.1 among
      obtain rfl := Value.text.inj same
      exact each other isText

/-- A documented type has the alternatives of the texts that it is written with. -/
theorem exists_texts {documented : Value}
    (shaped : documented.IsText ∨ documented.IsListOf IsText) :
    ∃ texts : List String, (∀ text ∈ texts, IsWrittenWith text documented) ∧
      alternatives documented = .ok (texts.flatMap fun text => trimPieces (textPieces text)) := by
  rcases shaped with ⟨content, rfl⟩ | ⟨members, rfl, areTexts⟩
  · refine ⟨[content], List.forall_mem_singleton.2 .whole, ?_⟩
    rw [List.flatMap_singleton]
    rfl
  · obtain ⟨texts, rfl⟩ : members ∈ Set.range (List.map Value.text) := by
      rw [Set.range_list_map]
      intro member among
      obtain ⟨content, rfl⟩ := areTexts member among
      exact ⟨content, rfl⟩
    exact ⟨texts, fun text among => .member (List.mem_map_of_mem among),
      alternatives_ofTexts texts⟩

/-! ## Cuts -/

/-- The number of parentheses that are open behind a text. A closing one without an opening one is
ignored. -/
def openBehind (text : String) : Nat :=
  depthThrough charMark 0 text.toList

/-- The pieces of a text are cut between two parts of it: those on the left make up the one, and
those on the right the other. -/
def IsCutBetween (text before after : String) : Prop :=
  ∃ left right, textPieces text = left ++ right ∧ left ≠ [] ∧ right ≠ [] ∧
    Text.join "|" left = before ∧ Text.join "|" right = after

/-- The characters of the pieces of a text are those of the text, cut at the bars. -/
theorem map_toList_textPieces (text : String) :
    (textPieces text).map String.toList = cutBars charMark 0 text.toList := by
  have undone : String.toList ∘ String.ofList = id := funext fun _ => String.toList_ofList
  rw [textPieces, List.map_map, undone, List.map_id]

/-- Joining the pieces of a text with bars gives the text back. -/
theorem join_textPieces (text : String) : Text.join "|" (textPieces text) = text := by
  apply String.toList_injective
  have bar : "|".toList = ['|'] := by decide
  rw [Text.toList_join, map_toList_textPieces, bar, joinChars_cutBars]

/-- A bar behind a text that leaves nothing open cuts a text into the pieces of both sides. -/
theorem textPieces_append_bar {before : String} (closed : openBehind before = 0) (after : String) :
    textPieces (before ++ "|" ++ after) = textPieces before ++ textPieces after := by
  have bar : "|".toList = ['|'] := by decide
  simp only [textPieces, String.toList_append, bar, List.append_assoc, List.singleton_append]
  rw [cutBars_append_bar closed (charMark_eq_bar.2 rfl), List.map_append]

/-- A bar is a cut exactly when no parenthesis is open in front of it. -/
theorem isCutBetween_iff {before after : String} :
    IsCutBetween (before ++ "|" ++ after) before after ↔ openBehind before = 0 := by
  constructor
  · rintro ⟨left, right, pieces, nonempty, nonemptyRight, rfl, -⟩
    have cut := congrArg (List.map String.toList) pieces
    rw [map_toList_textPieces, List.map_append] at cut
    have bar : "|".toList = ['|'] := by decide
    rw [openBehind, Text.toList_join, bar]
    exact depthThrough_of_cutBars_eq_append cut (by simpa using nonempty)
      (by simpa using nonemptyRight)
  · intro closed
    exact ⟨textPieces before, textPieces after, textPieces_append_bar closed after,
      by simp [textPieces, cutBars_ne_nil], by simp [textPieces, cutBars_ne_nil],
      join_textPieces before, join_textPieces after⟩

/-- A text is cut at the bars outside parentheses and nowhere else, and its alternatives are the
trimmed pieces that are not empty. Whatever texts a type is documented with, its alternatives have
no blanks around them, are not cut again, one by one or as a list, and are balanced when those texts
are. -/
theorem alternatives_cut_outside_parentheses :
    (∀ text, Text.join "|" (textPieces text) = text ∧
      alternatives (.text text) = .ok (trimPieces (textPieces text))) ∧
    (∀ before after,
      IsCutBetween (before ++ "|" ++ after) before after ↔ openBehind before = 0) ∧
    ∀ documented : Value, documented.IsText ∨ documented.IsListOf IsText →
      ∃ types, alternatives documented = .ok types ∧
        (∀ type ∈ types, type ≠ "" ∧ Text.trim type = type ∧
          alternatives (.text type) = .ok [type]) ∧
        alternatives (.ofTexts types) = .ok types ∧
        ((∀ text, IsWrittenWith text documented → isBalanced text = true) →
          ∀ type ∈ types, isBalanced type = true) := by
  refine ⟨fun text => ⟨join_textPieces text, rfl⟩, fun _ _ => isCutBetween_iff, ?_⟩
  intro documented shaped
  obtain ⟨texts, written, read⟩ := exists_texts shaped
  have source {type : String}
      (member : type ∈ texts.flatMap fun text => trimPieces (textPieces text)) :
      ∃ text ∈ texts, type ∈ trimPieces (textPieces text) :=
    List.mem_flatMap.1 member
  refine ⟨_, read, fun type member => ?_, ?_, fun balanced type member => ?_⟩
  · obtain ⟨text, _, isAlternative⟩ := source member
    obtain ⟨⟨piece, _, rfl⟩, nonempty⟩ := mem_trimPieces.1 isAlternative
    exact ⟨nonempty, trim_trim piece, congrArg Except.ok (trimPieces_alternative isAlternative)⟩
  · rw [alternatives_ofTexts]
    apply congrArg Except.ok
    refine (List.flatMap_congr fun type member => ?_).trans (List.flatMap_singleton' _)
    obtain ⟨text, _, isAlternative⟩ := source member
    exact trimPieces_alternative isAlternative
  · obtain ⟨text, among, isAlternative⟩ := source member
    obtain ⟨⟨piece, isPiece, rfl⟩, _⟩ := mem_trimPieces.1 isAlternative
    exact isBalanced_trim (balanced text (written text among)) isPiece

/-- The bar inside the signature of a function is no cut, and the list of its alternatives is read
as it was written. -/
theorem alternatives_of_signature_with_bar :
    let documented : Value := .list [.text " function(self, a|b) |hash", .text "|nil"]
    documented.IsListOf IsText ∧
      (∀ text, IsWrittenWith text documented → isBalanced text = true) ∧
      ∃ types, alternatives documented = .ok types ∧
        types = ["function(self, a|b)", "hash", "nil"] ∧
        alternatives (.ofTexts types) = .ok types ∧ ∀ type ∈ types, isBalanced type = true := by
  intro documented
  have areTexts : documented.IsListOf IsText := ⟨_, rfl, by simp⟩
  have balanced : ∀ text, IsWrittenWith text documented → isBalanced text = true :=
    forall_isWrittenWith_ofTexts [" function(self, a|b) |hash", "|nil"] (by decide)
  obtain ⟨types, read, _, again, balancedTypes⟩ :=
    alternatives_cut_outside_parentheses.2.2 documented (.inr areTexts)
  have written : types = ["function(self, a|b)", "hash", "nil"] :=
    (Except.ok.inj read).symm.trans (by decide)
  exact ⟨areTexts, balanced, types, read, written, again, balancedTypes balanced⟩

/-- A closing parenthesis without an opening one does not keep the next bar from being a cut, and an
opening one without a closing one takes in the rest. -/
example : textPieces "a)|b|(c|d" = ["a)", "b", "(c|d"] := by decide

end ApiStubs.Types
