import ApiStubs.Pattern.Percent
import ApiStubs.Proofs.Outcome

/-!
# Patterns with one place for a text

A pattern that holds one plain place puts whatever it is filled with between the characters around
the place (`fill_value_of_pieces`), so it can be filled with every value. Whether a pattern is of
this kind can be decided (`HasOnePlace`). A percent sign with an `s` behind it makes one, between
texts that have no percent signs (`hasOnePlace_between`).
-/

namespace ApiStubs.Pattern

/-- A place for a text, without a key, flags, a width or a precision. -/
def Place.plain : Place := { letter? := some 's' }

/-- A plain place holds a value as it stands in a line. -/
theorem Place.fill_plain (value : Value) :
    Place.plain.fill value (some value) = .ok value.display.toList := by
  have whole : ({} : Flags).layOut 0 value.display.toList = value.display.toList := by
    simp [Flags.layOut, Text.pad, Text.Alignment.before]
  simp [Place.fill, Place.plain, Source.resolve, Amount.resolve, writeValue, textOf?, whole,
    Outcome.ok_bind]

/-- Characters stand in front of what the pieces behind them are filled with. -/
theorem fillPieces_chars (value : Value) (left? : Option Value) (chars : List Char)
    (rest : List Piece) :
    fillPieces value left? (chars.map .char ++ rest) = do
      let (filled, used) ← fillPieces value left? rest
      return (chars ++ filled, used) := by
  induction chars with
  | nil =>
      rw [List.map_nil, List.nil_append]
      cases fillPieces value left? rest <;> rfl
  | cons char chars inductionHypothesis =>
      rw [List.map_cons, List.cons_append, fillPieces, inductionHypothesis]
      cases fillPieces value left? rest <;> rfl

/-- A pattern with one plain place puts a value between the characters around the place. -/
theorem fill_value_of_pieces {pattern : String} {before after : List Char}
    (read : pieces pattern = before.map .char ++ .place .plain :: after.map .char)
    (value : Value) : fill pattern value =
      .ok (String.ofList before ++ value.display ++ String.ofList after) := by
  have behind : fillPieces value none (after.map .char) = .ok (after, true) := by
    have chars := fillPieces_chars value none after []
    rw [List.append_nil, fillPieces, Outcome.ok_bind] at chars
    have whole : (after ++ [], true) = (after, true) := by
      rw [List.append_nil]
    exact chars.trans (congrArg Except.ok whole)
  have placed : fillPieces value (some value) (.place .plain :: after.map .char) =
      .ok (value.display.toList ++ after, true) := by
    rw [fillPieces, Place.fill_plain, Outcome.ok_bind, behind]
    rfl
  rw [fill, read, fillPieces_chars, placed]
  apply congrArg Except.ok
  apply String.toList_injective
  simp

/-- A pattern with one plain place puts a text between the characters around the place. -/
theorem fill_of_pieces {pattern : String} {before after : List Char}
    (read : pieces pattern = before.map .char ++ .place .plain :: after.map .char)
    (content : String) : fill pattern (.text content) =
      .ok (String.ofList before ++ content ++ String.ofList after) :=
  fill_value_of_pieces read (.text content)

/-- The place that a piece is, if it is one. -/
def Piece.place? : Piece → Option Place
  | .char _ => none
  | .place found => some found

/-- A pattern with one place, a plain one. -/
def HasOnePlace (pattern : String) : Prop :=
  (pieces pattern).filterMap Piece.place? = [.plain]

instance (pattern : String) : Decidable (HasOnePlace pattern) :=
  inferInstanceAs (Decidable (_ = _))

/-- Pieces without a place are characters. -/
theorem exists_chars {pieces : List Piece} (none : ∀ piece ∈ pieces, piece.place? = none) :
    ∃ chars : List Char, pieces = chars.map .char := by
  induction pieces with
  | nil => exact ⟨[], rfl⟩
  | cons piece rest inductionHypothesis =>
      obtain ⟨noPlace, others⟩ := List.forall_mem_cons.1 none
      obtain ⟨chars, rfl⟩ := inductionHypothesis others
      cases piece with
      | char char => exact ⟨char :: chars, rfl⟩
      | place place => cases noPlace

/-- A pattern with one place can be filled with every value. -/
theorem HasOnePlace.exists_fill {pattern : String} (single : HasOnePlace pattern) (value : Value) :
    ∃ filled, fill pattern value = .ok filled := by
  obtain ⟨before, piece, after, read, noneBefore, isPlace, noneAfter⟩ :=
    List.filterMap_eq_cons_iff.1 single
  obtain ⟨charsBefore, rfl⟩ := exists_chars noneBefore
  obtain ⟨charsAfter, rfl⟩ := exists_chars (List.filterMap_eq_nil_iff.1 noneAfter)
  cases piece with
  | char char => cases isPlace
  | place place =>
      obtain rfl := Option.some.inj isPlace
      exact ⟨_, fill_value_of_pieces read value⟩

/-- Characters other than the percent sign stand for themselves in front of any others. -/
theorem piecesFrom_chars {chars : List Char} (plain : '%' ∉ chars) (rest : List Char) :
    piecesFrom none (chars ++ rest) = chars.map .char ++ piecesFrom none rest := by
  induction chars with
  | nil => rfl
  | cons char others inductionHypothesis =>
      rw [List.mem_cons, not_or] at plain
      rw [List.cons_append, piecesFrom, if_neg (Ne.symm plain.1), inductionHypothesis plain.2]
      rfl

/-- A percent sign and the letter of texts are one place between texts without percent signs. -/
theorem hasOnePlace_between {before after : String} (plainBefore : '%' ∉ before.toList)
    (plainAfter : '%' ∉ after.toList) : HasOnePlace (before ++ "%s" ++ after) := by
  have place : "%s".toList = ['%', 's'] := by decide
  have read : pieces (before ++ "%s" ++ after) =
      before.toList.map .char ++ .place .plain :: after.toList.map .char := by
    have last := piecesFrom_chars plainAfter []
    rw [List.append_nil] at last
    rw [pieces, String.toList_append, String.toList_append, place, List.append_assoc,
      piecesFrom_chars plainBefore]
    simp [piecesFrom, last, Place.read, Place.readStart, Place.readFlag, Place.readWidth,
      Place.readPoint, Place.readSize, Place.readLetter, Flags.add?, Place.plain]
  have noPlaces (chars : List Char) : (chars.map Piece.char).filterMap Piece.place? = [] := by
    rw [List.filterMap_eq_nil_iff]
    rintro piece isChar
    obtain ⟨char, _, rfl⟩ := List.mem_map.1 isChar
    rfl
  rw [HasOnePlace, read, List.filterMap_append, noPlaces, List.nil_append,
    List.filterMap_cons_some (by rfl), noPlaces]

end ApiStubs.Pattern
