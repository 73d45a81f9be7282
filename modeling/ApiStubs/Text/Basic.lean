import ApiStubs.Text.Blank

/-!
# Texts

The cuts and joins of texts that the stubs are made with. Each is defined over the characters of a
text; the lemmas at the end say that splitting and joining undo each other.
-/

namespace ApiStubs.Text

/-- Cut a sequence of characters at every occurrence of a separator. -/
def splitChars (separator : Char) : List Char → List (List Char)
  | [] => [[]]
  | char :: rest =>
      if char = separator then [] :: splitChars separator rest
      else
        match splitChars separator rest with
        | [] => [[char]]
        | first :: others => (char :: first) :: others

/-- Put sequences of characters together with a separator between them. -/
def joinChars (separator : List Char) : List (List Char) → List Char
  | [] => []
  | [last] => last
  | first :: second :: others => first ++ separator ++ joinChars separator (second :: others)

/-- Cut a text at every occurrence of a separator. -/
def split (separator : Char) (text : String) : List String :=
  (splitChars separator text.toList).map String.ofList

/-- The lines of a text, cut at the newline alone. -/
def lines (text : String) : List String :=
  split '\n' text

/-- Put texts together with a separator between them. -/
def join (separator : String) : List String → String
  | [] => ""
  | [last] => last
  | first :: second :: others => first ++ separator ++ join separator (second :: others)

/-- Whether a text begins with another. -/
def beginsWith (text start : String) : Bool :=
  start.toList.isPrefixOf text.toList

/-- Whether a text ends with another. -/
def endsWith (text ending : String) : Bool :=
  ending.toList.isSuffixOf text.toList

/-- Whether a sequence of characters occurs in another. -/
def occursIn (part : List Char) : List Char → Bool
  | [] => part.isEmpty
  | char :: rest => part.isPrefixOf (char :: rest) || occursIn part rest

/-- Whether a text holds another. -/
def includes (text part : String) : Bool :=
  occursIn part.toList text.toList

/-- Remove the blank characters from the start. -/
def trimStartChars (chars : List Char) : List Char :=
  chars.dropWhile isBlank

/-- Remove the blank characters from the end. -/
def trimEndChars (chars : List Char) : List Char :=
  (chars.reverse.dropWhile isBlank).reverse

/-- Remove the blank characters from both ends. -/
def trimChars (chars : List Char) : List Char :=
  trimEndChars (trimStartChars chars)

/-- Remove the blank characters from both ends of a text. -/
def trim (text : String) : String :=
  String.ofList (trimChars text.toList)

/-- Remove the blank characters from the end of a text. -/
def trimEnd (text : String) : String :=
  String.ofList (trimEndChars text.toList)

/-- Replace every occurrence of one character by another. -/
def replaceChar (old new : Char) (text : String) : String :=
  String.ofList (text.toList.map fun char => if char = old then new else char)

/-- A text without its first characters. -/
def dropFirst (count : Nat) (text : String) : String :=
  String.ofList (text.toList.drop count)

/-! ## Splitting and joining -/

theorem splitChars_ne_nil (separator : Char) (chars : List Char) :
    splitChars separator chars ≠ [] := by
  cases chars with
  | nil => simp [splitChars]
  | cons char rest =>
      simp only [splitChars]
      split
      · simp
      · split <;> simp

/-- Joining the pieces with the separator gives the sequence back. -/
theorem joinChars_splitChars (separator : Char) (chars : List Char) :
    joinChars [separator] (splitChars separator chars) = chars := by
  induction chars with
  | nil => rfl
  | cons char rest inductionHypothesis =>
      have nonempty := splitChars_ne_nil separator rest
      simp only [splitChars]
      split
      · next same =>
          cases pieces : splitChars separator rest with
          | nil => exact absurd pieces nonempty
          | cons first others =>
              rw [pieces] at inductionHypothesis
              simp [joinChars, inductionHypothesis, same]
      · cases pieces : splitChars separator rest with
        | nil => exact absurd pieces nonempty
        | cons first others =>
            rw [pieces] at inductionHypothesis
            cases others with
            | nil => simpa [joinChars] using inductionHypothesis
            | cons second others => simpa [joinChars] using inductionHypothesis

/-- No piece holds the separator. -/
theorem not_mem_of_mem_splitChars {separator : Char} {chars piece : List Char}
    (member : piece ∈ splitChars separator chars) : separator ∉ piece := by
  induction chars generalizing piece with
  | nil => simp_all [splitChars]
  | cons char rest inductionHypothesis =>
      simp only [splitChars] at member
      split at member
      · rcases List.mem_cons.1 member with rfl | later
        · simp
        · exact inductionHypothesis later
      · next differs =>
          cases pieces : splitChars separator rest with
          | nil => exact absurd pieces (splitChars_ne_nil separator rest)
          | cons first others =>
              rw [pieces] at member inductionHypothesis
              rcases List.mem_cons.1 member with rfl | later
              · have absent := inductionHypothesis (List.mem_cons_self ..)
                simp [absent, Ne.symm differs]
              · exact inductionHypothesis (List.mem_cons_of_mem _ later)

/-- Joining texts joins their characters. -/
theorem toList_join (separator : String) (texts : List String) :
    (join separator texts).toList = joinChars separator.toList (texts.map String.toList) := by
  induction texts with
  | nil => rfl
  | cons first rest inductionHypothesis =>
      cases rest with
      | nil => rfl
      | cons second others => simpa [join, joinChars] using inductionHypothesis

/-- A join ends with the last text behind a separator. -/
theorem join_concat (separator : String) {texts : List String} (nonempty : texts ≠ [])
    (last : String) :
    join separator (texts ++ [last]) = join separator texts ++ separator ++ last := by
  induction texts with
  | nil => exact absurd rfl nonempty
  | cons first rest inductionHypothesis =>
      cases rest with
      | nil => rfl
      | cons second others =>
          have later := inductionHypothesis (by simp)
          simp only [List.cons_append] at later
          simp only [List.cons_append, join, later, String.append_assoc]

/-- Joining the pieces of a text with the separator gives the text back. -/
theorem join_split (separator : Char) (text : String) :
    join (String.singleton separator) (split separator text) = text := by
  apply String.toList_injective
  rw [toList_join, split, List.map_map]
  have undone : String.toList ∘ String.ofList = id := funext fun _ => String.toList_ofList
  rw [undone, List.map_id, String.toList_singleton]
  exact joinChars_splitChars separator text.toList

/-- Joining the lines of a text with newlines gives the text back. -/
theorem join_lines (text : String) : join "\n" (lines text) = text :=
  join_split '\n' text

/-- A sequence without the separator is one piece. -/
theorem splitChars_of_not_mem {separator : Char} {chars : List Char}
    (absent : separator ∉ chars) : splitChars separator chars = [chars] := by
  induction chars with
  | nil => rfl
  | cons char rest inductionHypothesis =>
      rw [List.mem_cons, not_or] at absent
      have single := inductionHypothesis absent.2
      simp [splitChars, Ne.symm absent.1, single]

/-- A sequence is cut at a separator inside it, whatever stands on both sides. -/
theorem splitChars_append_cons (separator : Char) (left right : List Char) :
    splitChars separator (left ++ separator :: right) =
      splitChars separator left ++ splitChars separator right := by
  induction left with
  | nil => simp [splitChars]
  | cons char rest inductionHypothesis =>
      simp only [List.cons_append, splitChars, inductionHypothesis]
      split
      · rfl
      · cases pieces : splitChars separator rest with
        | nil => exact absurd pieces (splitChars_ne_nil separator rest)
        | cons first others => rfl

/-- What stands in front of a sequence without the separator becomes the start of its first
piece. -/
theorem exists_splitChars_append {separator : Char} {start : List Char}
    (absent : separator ∉ start) (rest : List Char) :
    ∃ first others, splitChars separator (start ++ rest) = (start ++ first) :: others := by
  induction start with
  | nil =>
      cases pieces : splitChars separator rest with
      | nil => exact absurd pieces (splitChars_ne_nil separator rest)
      | cons first others => exact ⟨first, others, pieces⟩
  | cons char more inductionHypothesis =>
      rw [List.mem_cons, not_or] at absent
      obtain ⟨first, others, cut⟩ := inductionHypothesis absent.2
      exact ⟨first, others, by simp [splitChars, Ne.symm absent.1, cut]⟩

/-- Splitting a join gives back pieces that do not hold the separator. -/
theorem splitChars_joinChars {separator : Char} {pieces : List (List Char)}
    (nonempty : pieces ≠ []) (absent : ∀ piece ∈ pieces, separator ∉ piece) :
    splitChars separator (joinChars [separator] pieces) = pieces := by
  induction pieces with
  | nil => exact absurd rfl nonempty
  | cons first others inductionHypothesis =>
      have absentFirst := absent first (List.mem_cons_self ..)
      cases others with
      | nil => exact splitChars_of_not_mem absentFirst
      | cons second more =>
          have cut := inductionHypothesis (by simp) fun piece member =>
            absent piece (List.mem_cons_of_mem _ member)
          simp only [joinChars, List.append_assoc, List.singleton_append]
          rw [splitChars_append_cons, splitChars_of_not_mem absentFirst, cut]
          rfl

/-- Splitting a join gives back texts that do not hold the separator. -/
theorem split_join {separator : Char} {texts : List String} (nonempty : texts ≠ [])
    (absent : ∀ text ∈ texts, separator ∉ text.toList) :
    split separator (join (String.singleton separator) texts) = texts := by
  rw [split, toList_join, String.toList_singleton, splitChars_joinChars (by simpa using nonempty)]
  · rw [List.map_map]
    have undone : String.ofList ∘ String.toList = id := funext fun _ => String.ofList_toList
    rw [undone, List.map_id]
  · intro piece member
    obtain ⟨text, among, rfl⟩ := List.mem_map.1 member
    exact absent text among

/-- A text without newlines is one line. -/
theorem lines_of_not_mem {text : String} (absent : '\n' ∉ text.toList) : lines text = [text] := by
  rw [lines, split, splitChars_of_not_mem absent, List.map_singleton, String.ofList_toList]

/-- The lines on both sides of a newline are the lines of the whole. -/
theorem lines_append_newline (left right : String) :
    lines (left ++ "\n" ++ right) = lines left ++ lines right := by
  have newline : "\n".toList = ['\n'] := by decide
  simp only [lines, split, String.toList_append, newline, List.append_assoc,
    List.singleton_append, splitChars_append_cons, List.map_append]

/-- Between texts on both sides of an empty line stands that line. -/
theorem lines_append_blank (left right : String) :
    lines (left ++ "\n\n" ++ right) = lines left ++ "" :: lines right := by
  have blank : left ++ "\n\n" ++ right = left ++ "\n" ++ ("" ++ "\n" ++ right) := by
    apply String.toList_injective
    simp
  rw [blank, lines_append_newline, lines_append_newline]
  rfl

/-- A line of texts on both sides of an empty line is one of either, or that empty line. -/
theorem mem_lines_append_blank {left right line : String} :
    line ∈ lines (left ++ "\n\n" ++ right) ↔
      line ∈ lines left ∨ line = "" ∨ line ∈ lines right := by
  rw [lines_append_blank, List.mem_append, List.mem_cons]

/-- A line of texts on both sides of a newline is one of either. -/
theorem mem_lines_append_newline {left right line : String} :
    line ∈ lines (left ++ "\n" ++ right) ↔ line ∈ lines left ∨ line ∈ lines right := by
  rw [lines_append_newline, List.mem_append]

/-- A newline at the end of a text leaves its lines as they are. -/
theorem mem_lines_concat_newline {text line : String} (inside : line ∈ lines text) :
    line ∈ lines (text ++ "\n") := by
  have whole := mem_lines_append_newline.2 (Or.inl inside : _ ∨ line ∈ lines "")
  rwa [String.append_empty] at whole

/-- The lines of texts that are joined by newlines are those of the texts. -/
theorem lines_join {texts : List String} (nonempty : texts ≠ []) :
    lines (join "\n" texts) = texts.flatMap lines := by
  induction texts with
  | nil => exact absurd rfl nonempty
  | cons first others inductionHypothesis =>
      cases others with
      | nil => simp [join]
      | cons second rest =>
          rw [join, lines_append_newline, inductionHypothesis (by simp)]
          rfl

/-- A text that begins with a start without newlines has a line that does. -/
theorem exists_line_beginsWith {start : String} (absent : '\n' ∉ start.toList) (rest : String) :
    ∃ line ∈ lines (start ++ rest), beginsWith line start = true := by
  obtain ⟨first, others, cut⟩ := exists_splitChars_append absent rest.toList
  refine ⟨String.ofList (start.toList ++ first), ?_, ?_⟩
  · rw [lines, split, String.toList_append, cut]
    exact List.mem_cons_self ..
  · rw [beginsWith, String.toList_ofList, List.isPrefixOf_iff_prefix]
    exact List.prefix_append ..

/-! ## Texts inside texts -/

/-- A sequence of characters occurs in another when that has it between two others. -/
theorem occursIn_iff {part chars : List Char} : occursIn part chars = true ↔ part <:+: chars := by
  induction chars with
  | nil => simp [occursIn]
  | cons char rest inductionHypothesis =>
      rw [occursIn, Bool.or_eq_true, List.isPrefixOf_iff_prefix, inductionHypothesis,
        List.infix_cons_iff]

/-- A text holds itself. -/
theorem includes_self (text : String) : includes text text = true :=
  occursIn_iff.2 (List.infix_refl _)

/-- What a text holds is held with something in front of the text. -/
theorem includes_append_left (left : String) {text part : String}
    (held : includes text part = true) : includes (left ++ text) part = true := by
  rw [includes, occursIn_iff] at held ⊢
  rw [String.toList_append]
  exact held.trans (List.suffix_append ..).isInfix

/-- What a text holds is held with something behind the text. -/
theorem includes_append_right {text part : String} (held : includes text part = true)
    (right : String) : includes (text ++ right) part = true := by
  rw [includes, occursIn_iff] at held ⊢
  rw [String.toList_append]
  exact held.trans (List.prefix_append ..).isInfix

/-- A text begins with what stands in front of it. -/
theorem beginsWith_append (start rest : String) : beginsWith (start ++ rest) start = true := by
  rw [beginsWith, List.isPrefixOf_iff_prefix, String.toList_append]
  exact List.prefix_append ..

/-- A common start does not matter to whether one text begins with another. -/
theorem beginsWith_append_append (common text start : String) :
    beginsWith (common ++ text) (common ++ start) = beginsWith text start := by
  rw [Bool.eq_iff_iff, beginsWith, beginsWith, List.isPrefixOf_iff_prefix,
    List.isPrefixOf_iff_prefix, String.toList_append, String.toList_append,
    List.prefix_append_right_inj]

/-- A text that begins with another begins with the start of that one. -/
theorem beginsWith_of_beginsWith_append {text start : String} (more : String)
    (begins : beginsWith text (start ++ more) = true) : beginsWith text start = true := by
  rw [beginsWith, List.isPrefixOf_iff_prefix] at begins ⊢
  rw [String.toList_append] at begins
  exact (List.prefix_append ..).trans begins

/-- What a text begins with does not change by what follows the text. -/
theorem beginsWith_append_right {text start : String} (begins : beginsWith text start = true)
    (rest : String) : beginsWith (text ++ rest) start = true := by
  rw [beginsWith, List.isPrefixOf_iff_prefix] at begins ⊢
  rw [String.toList_append]
  exact begins.trans (List.prefix_append ..)

/-- What a text begins with stands in front of the rest of it. -/
theorem exists_eq_append_of_beginsWith {text start : String}
    (begins : beginsWith text start = true) : ∃ rest, text = start ++ rest := by
  obtain ⟨rest, whole⟩ := List.isPrefixOf_iff_prefix.1 begins
  refine ⟨String.ofList rest, String.toList_injective ?_⟩
  rw [String.toList_append, String.toList_ofList, whole]

/-- Dropping as many characters as a start has leaves what stands behind it. -/
theorem dropFirst_append (start rest : String) : dropFirst start.length (start ++ rest) = rest := by
  rw [dropFirst, String.toList_append, ← String.length_toList, List.drop_left, String.ofList_toList]

/-- A text ends with what stands at its end. -/
theorem endsWith_append (text ending : String) : endsWith (text ++ ending) ending = true := by
  rw [endsWith, List.isSuffixOf_iff_suffix, String.toList_append]
  exact List.suffix_append ..

end ApiStubs.Text
