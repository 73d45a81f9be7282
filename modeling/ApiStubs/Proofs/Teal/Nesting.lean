import ApiStubs.Proofs.Teal.Indentation

/-!
# Well nested lines

A scan of the Teal file with a depth counter: a record opens a block unless it is closed on the same
line, and `end` closes one. Parts that are put together in the way declarations are, by the grammar
`IsNested`, are scanned back to the depth where they began, at every depth and whatever follows.
-/

namespace ApiStubs

namespace Text

/-- A text without spaces and tabs. Dotted identifiers are such texts. -/
def IsUnspaced (text : String) : Prop :=
  ∀ char ∈ text.toList, char ≠ ' ' ∧ char ≠ '\t'

instance (text : String) : Decidable (IsUnspaced text) :=
  List.decidableBAll (fun char => char ≠ ' ' ∧ char ≠ '\t') text.toList

/-- A text with a first word begins with another word exactly when they are the same. -/
theorem beginsWith_word {first word : String} (rest : String) (unspaced : ' ' ∉ first.toList)
    (unspacedWord : ' ' ∉ word.toList) :
    beginsWith (first ++ " " ++ rest) (word ++ " ") = true ↔ first = word := by
  have sameWord (left right more : List Char) (noLeft : ' ' ∉ left) (noRight : ' ' ∉ right)
      (isPrefix : right ++ [' '] <+: left ++ ' ' :: more) : left = right := by
    induction left generalizing right with
    | nil =>
        cases right with
        | nil => rfl
        | cons char others =>
            obtain ⟨rfl, _⟩ := List.cons_prefix_cons.1 isPrefix
            simp at noRight
    | cons char others inductionHypothesis =>
        cases right with
        | nil =>
            obtain ⟨rfl, _⟩ := List.cons_prefix_cons.1 isPrefix
            simp at noLeft
        | cons other more =>
            obtain ⟨rfl, later⟩ := List.cons_prefix_cons.1 isPrefix
            rw [List.mem_cons, not_or] at noLeft noRight
            rw [inductionHypothesis more noLeft.2 noRight.2 later]
  constructor
  · intro begins
    rw [beginsWith, List.isPrefixOf_iff_prefix] at begins
    simp only [String.toList_append, List.append_assoc] at begins
    exact String.toList_injective (sameWord _ _ _ unspaced unspacedWord begins)
  · rintro rfl
    exact beginsWith_append ..

end Text

namespace Teal

/-! ## The scan -/

/-- The number of tabs in front of a line. -/
def leadingTabs (line : String) : Nat :=
  (line.toList.takeWhile (· == '\t')).length

/-- A line without the tabs in front of it. -/
def untabbed (line : String) : String :=
  String.ofList (line.toList.dropWhile (· == '\t'))

/-- Whether a line without its tabs opens a block: it begins a record and does not end it. -/
def opens (text : String) : Bool :=
  (Text.beginsWith text "record " || Text.beginsWith text "global record ") &&
    !Text.endsWith text " is userdata end"

/-- A line as it has to be at a depth: behind as many tabs, and global exactly when it is a
declaration at depth zero. -/
structure IsPlacedAt (depth : Nat) (line : String) : Prop where
  indented : line ≠ "" → leadingTabs line = depth
  global : Text.beginsWith (untabbed line) "global " = true ↔
    depth = 0 ∧ line ≠ "" ∧ Text.beginsWith line "--" = false ∧ line ≠ "end"

/-- Lines that a scan from a depth takes to depth zero, where each line is placed at its depth. A
line that closes a block is placed at the depth behind it. -/
def IsWellNested : Nat → List String → Prop
  | depth, [] => depth = 0
  | depth, line :: rest =>
      if untabbed line = "end" then
        ∃ outer, depth = outer + 1 ∧ IsPlacedAt outer line ∧ IsWellNested outer rest
      else
        IsPlacedAt depth line ∧
          IsWellNested (if opens (untabbed line) then depth + 1 else depth) rest

/-! ## Lines of declarations -/

/-- A line that opens nothing: an empty one, one with a first word of its own, or a record that ends
on the same line. -/
inductive IsSingle : String → Prop
  | blank : IsSingle ""
  | words {first : String} (rest : String) (unspaced : Text.IsUnspaced first)
      (nonempty : first ≠ "") (notRecord : first ≠ "record") (notGlobal : first ≠ "global") :
      IsSingle (first ++ " " ++ rest)
  | userdata (name : String) : IsSingle ("record " ++ name ++ " is userdata end")

/-- A line that opens a record, of a group or of a class. -/
inductive IsOpening : String → Prop
  | group {name : String} (unspaced : Text.IsUnspaced name) : IsOpening ("record " ++ name)
  | classType (name : String) : IsOpening ("record " ++ name ++ " is userdata")

/-- The line that closes a record. -/
def closing : String := "end"

/-- A line as it is shown at a depth: its declaration is global at depth zero. -/
def shownLine : Nat → String → String
  | 0, text => Part.exposeLine text
  | _ + 1, text => text

/-- A part as it is shown at a depth. -/
def shownPart (depth : Nat) : Part → Part
  | .line text => .line (shownLine depth text)
  | .block body => .block body

/-- Parts at depth zero are shown with their declarations made global. -/
theorem map_shownPart_zero (parts : List Part) : parts.map (shownPart 0) = Part.expose parts := by
  rw [Part.expose]
  refine List.map_congr_left fun part _ => ?_
  cases part <;> rfl

/-- Parts inside a block are shown as they are. -/
theorem map_shownPart_succ (depth : Nat) (parts : List Part) :
    parts.map (shownPart (depth + 1)) = parts := by
  refine List.map_id'' (fun part => ?_) parts
  cases part <;> rfl

/-- The indentation of a depth. -/
def tabs (depth : Nat) : String :=
  String.ofList (List.replicate depth '\t')

/-- A text that does not begin with a tab is found again behind any number of tabs. -/
theorem untabbed_tabs (depth : Nat) {text : String} (noTab : text.toList.head? ≠ some '\t') :
    untabbed (tabs depth ++ text) = text ∧ leadingTabs (tabs depth ++ text) = depth := by
  have start : text.toList.dropWhile (· == '\t') = text.toList ∧
      text.toList.takeWhile (· == '\t') = [] := by
    cases chars : text.toList with
    | nil => simp
    | cons char rest =>
        rw [chars] at noTab
        have differs : (char == '\t') = false := by simpa using noTab
        simp [differs]
  have whole : (tabs depth ++ text).toList = List.replicate depth '\t' ++ text.toList := by
    rw [String.toList_append, tabs, String.toList_ofList]
  constructor
  · rw [untabbed, whole, List.dropWhile_append_of_pos (by simp), start.1, String.ofList_toList]
  · rw [leadingTabs, whole, List.takeWhile_append_of_pos (by simp), start.2]
    simp

/-- A line at a depth as the scan sees it: it is placed there, and it opens a block or does not. -/
structure IsScanned (depth : Nat) (line : String) (opensBlock : Bool) : Prop where
  placed : IsPlacedAt depth line
  notClosing : untabbed line ≠ closing
  opening : opens (untabbed line) = opensBlock

/-- What has to be known of a text for the line at a depth to be scanned. -/
theorem isScanned_of_shown {depth : Nat} {text : String} {opensBlock : Bool}
    (nonempty : text ≠ "") (noTab : text.toList.head? ≠ some '\t') (notClosing : text ≠ closing)
    (opening : opens text = opensBlock)
    (global : Text.beginsWith text "global " = true ↔
      depth = 0 ∧ Text.beginsWith text "--" = false) :
    IsScanned depth (Part.indentLine (tabs depth) text) opensBlock := by
  obtain ⟨found, counted⟩ := untabbed_tabs depth noTab
  have indented : Part.indentLine (tabs depth) text = tabs depth ++ text := by
    rw [Part.indentLine, if_neg nonempty]
  rw [indented]
  refine ⟨⟨fun _ => counted, ?_⟩, by rwa [found], by rwa [found]⟩
  rw [found, global]
  cases depth with
  | zero =>
      have bare : tabs 0 ++ text = text := by
        apply String.toList_injective
        simp [tabs]
      rw [bare]
      simp [nonempty, show text ≠ "end" from notClosing]
  | succ depth => simp

/-- A text that opens a block, or does not, whether it is shown as a global declaration or not. -/
structure IsLine (text : String) (opensBlock : Bool) : Prop where
  nonempty : text ≠ ""
  noTab : text.toList.head? ≠ some '\t'
  notClosing : text ≠ closing
  notGlobal : Text.beginsWith text "global " = false
  opening : opens text = opensBlock
  openingGlobal : opens ("global " ++ text) = opensBlock

/-- Lines are scanned at every depth. -/
theorem IsLine.isScanned {text : String} {opensBlock : Bool} (isLine : IsLine text opensBlock)
    (depth : Nat) :
    IsScanned depth (Part.indentLine (tabs depth) (shownLine depth text)) opensBlock := by
  cases depth with
  | succ depth =>
      exact isScanned_of_shown isLine.nonempty isLine.noTab isLine.notClosing isLine.opening
        (by simp [shownLine, isLine.notGlobal])
  | zero =>
      have notEnd : text ≠ "end" := isLine.notClosing
      rw [shownLine, Part.exposeLine]
      by_cases comment : Text.beginsWith text "--" = true
      · rw [if_neg (by simp [Part.isDeclaration, comment])]
        exact isScanned_of_shown isLine.nonempty isLine.noTab isLine.notClosing isLine.opening
          (by simp [isLine.notGlobal, comment])
      · rw [if_pos (by simp [Part.isDeclaration, comment, notEnd, isLine.nonempty])]
        refine isScanned_of_shown (by simp) (by simp) ?_ isLine.openingGlobal ?_
        · intro same
          have chars := congrArg String.toList same
          simp [closing] at chars
        · have notComment : Text.beginsWith ("global " ++ text) "--" = false := by
            simp [Text.beginsWith, List.isPrefixOf]
          simp [Text.beginsWith_append, notComment]

/-- A global line opens a block only if the line behind `global` begins a record. -/
theorem opens_global (text : String) :
    opens ("global " ++ text) = (Text.beginsWith text "record " &&
      !Text.endsWith ("global " ++ text) " is userdata end") := by
  have notRecord : Text.beginsWith ("global " ++ text) "record " = false := by
    simp [Text.beginsWith, List.isPrefixOf]
  have later : Text.beginsWith ("global " ++ text) "global record " =
      Text.beginsWith text "record " := Text.beginsWith_append_append "global " text "record "
  rw [opens, notRecord, later, Bool.false_or]

/-- A record opens a block unless it ends on the same line. -/
theorem isLine_record {rest : String} {opensBlock : Bool}
    (ends : Text.endsWith ("record " ++ rest) " is userdata end" = !opensBlock)
    (endsGlobal : Text.endsWith ("global " ++ ("record " ++ rest)) " is userdata end" =
      !opensBlock) : IsLine ("record " ++ rest) opensBlock where
  nonempty := by simp
  noTab := by simp
  notClosing := by
    intro same
    have chars := congrArg String.toList same
    simp [closing] at chars
  notGlobal := by simp [Text.beginsWith, List.isPrefixOf]
  opening := by simp [opens, Text.beginsWith_append, ends]
  openingGlobal := by simp [opens_global, Text.beginsWith_append, endsGlobal]

/-- A line with a first word of its own opens no block. -/
theorem isLine_words {first : String} (rest : String) (unspaced : Text.IsUnspaced first)
    (nonempty : first ≠ "") (notRecord : first ≠ "record") (notGlobal : first ≠ "global") :
    IsLine (first ++ " " ++ rest) false := by
  have noSpace : ' ' ∉ first.toList := fun member => (unspaced ' ' member).1 rfl
  have begins (word : String) (noSpaceInWord : ' ' ∉ word.toList) (differs : first ≠ word) :
      Text.beginsWith (first ++ " " ++ rest) (word ++ " ") = false := by
    rw [Bool.eq_false_iff, Ne, Text.beginsWith_word rest noSpace noSpaceInWord]
    exact differs
  have isRecord : Text.beginsWith (first ++ " " ++ rest) "record " = false :=
    begins "record" (by decide) notRecord
  have isGlobal : Text.beginsWith (first ++ " " ++ rest) "global " = false :=
    begins "global" (by decide) notGlobal
  have notBoth : Text.beginsWith (first ++ " " ++ rest) "global record " = false := by
    rw [Bool.eq_false_iff]
    intro both
    have start : Text.beginsWith (first ++ " " ++ rest) "global " = true :=
      Text.beginsWith_of_beginsWith_append "record " both
    exact absurd (isGlobal.symm.trans start) (by simp)
  refine ⟨?_, ?_, ?_, isGlobal, by simp [opens, isRecord, notBoth],
    by simp [opens_global, isRecord]⟩
  · simp
  · obtain ⟨char, chars, split⟩ : ∃ char chars, first.toList = char :: chars := by
      cases split : first.toList with
      | nil => exact absurd (String.toList_injective split) nonempty
      | cons char chars => exact ⟨char, chars, rfl⟩
    have noTab := (unspaced char (by simp [split])).2
    simp [split, noTab]
  · intro same
    have space : ' ' ∈ closing.toList := by
      rw [← same]
      simp
    exact absurd space (by decide)

/-- A line that opens nothing is empty, or one that opens nothing wherever it is shown. -/
theorem IsSingle.isLine {text : String} (isSingle : IsSingle text) (nonempty : text ≠ "") :
    IsLine text false := by
  cases isSingle with
  | blank => exact absurd rfl nonempty
  | words rest unspaced nonemptyFirst notRecord notGlobal =>
      exact isLine_words rest unspaced nonemptyFirst notRecord notGlobal
  | userdata name =>
      have isLine : IsLine ("record " ++ (name ++ " is userdata end")) false := by
        refine isLine_record ?_ ?_
        · rw [← String.append_assoc]
          exact Text.endsWith_append ..
        · rw [← String.append_assoc, ← String.append_assoc]
          exact Text.endsWith_append ..
      rwa [← String.append_assoc] at isLine

/-- An empty line is shown as such at every depth. -/
theorem indentLine_shownLine_empty (depth : Nat) :
    Part.indentLine (tabs depth) (shownLine depth "") = "" := by
  cases depth <;> rfl

/-- A line that opens nothing is scanned as such at every depth. -/
theorem IsSingle.isScanned {text : String} (isSingle : IsSingle text) (depth : Nat) :
    IsScanned depth (Part.indentLine (tabs depth) (shownLine depth text)) false := by
  by_cases empty : text = ""
  · rw [empty, indentLine_shownLine_empty]
    have placed : IsPlacedAt depth "" :=
      ⟨fun nonempty => absurd rfl nonempty, iff_of_false (by decide) fun ⟨_, differs, _⟩ =>
        differs rfl⟩
    exact ⟨placed, by decide, by decide⟩
  · exact (isSingle.isLine empty).isScanned depth

/-- A text with fewer spaces than the ending of a userdata record does not end that way. -/
theorem not_endsWith_of_count {text : String} (few : text.toList.count ' ' < 3) :
    Text.endsWith text " is userdata end" = false := by
  rw [Bool.eq_false_iff]
  intro ends
  rw [Text.endsWith, List.isSuffixOf_iff_suffix] at ends
  have spaces : " is userdata end".toList.count ' ' = 3 := by decide
  have fewer := ends.sublist.count_le ' '
  omega

/-- The opening of a class does not end as a userdata record on one line does. -/
theorem not_endsWith_userdata (text : String) :
    Text.endsWith (text ++ " is userdata") " is userdata end" = false := by
  simp [Text.endsWith, List.isSuffixOf, List.isPrefixOf]

/-- A line that opens a record does so wherever it is shown. -/
theorem IsOpening.isLine {text : String} (isOpening : IsOpening text) : IsLine text true := by
  cases isOpening with
  | @group name unspaced =>
      have none : name.toList.count ' ' = 0 :=
        List.count_eq_zero.2 fun member => (unspaced ' ' member).1 rfl
      exact isLine_record (not_endsWith_of_count (by simp [none]))
        (not_endsWith_of_count (by simp [none]))
  | classType name =>
      have isLine : IsLine ("record " ++ (name ++ " is userdata")) true := by
        refine isLine_record ?_ ?_
        · rw [← String.append_assoc]
          exact not_endsWith_userdata _
        · rw [← String.append_assoc, ← String.append_assoc]
          exact not_endsWith_userdata _
      rwa [← String.append_assoc] at isLine

/-! ## The grammar of declarations -/

/-- Parts put together as declarations are: lines that open nothing, and records around blocks. -/
inductive IsNested : List Part → Prop
  | nil : IsNested []
  | single {text : String} {rest : List Part} (isSingle : IsSingle text) (nested : IsNested rest) :
      IsNested (.line text :: rest)
  | record {text : String} {blocks : List (List Part)} {rest : List Part}
      (isOpening : IsOpening text) (inside : ∀ block ∈ blocks, IsNested block)
      (nested : IsNested rest) :
      IsNested (.line text :: (blocks.map .block ++ .line closing :: rest))

namespace IsNested

/-- Nested parts one after the other are nested. -/
theorem append {first second : List Part} (nested : IsNested first) (later : IsNested second) :
    IsNested (first ++ second) := by
  induction nested with
  | nil => exact later
  | single isSingle _ inductionHypothesis => exact .single isSingle inductionHypothesis
  | record isOpening inside _ _ inductionHypothesis =>
      simp only [List.cons_append, List.append_assoc]
      exact .record isOpening inside inductionHypothesis

/-- Any number of nested parts one after the other are nested. -/
theorem flatten {lists : List (List Part)} (nested : ∀ parts ∈ lists, IsNested parts) :
    IsNested lists.flatten := by
  induction lists with
  | nil => exact .nil
  | cons parts rest inductionHypothesis =>
      obtain ⟨first, others⟩ := List.forall_mem_cons.1 nested
      exact first.append (inductionHypothesis others)

/-- Lines that open nothing are nested. -/
theorem of_singles {texts : List String} (single : ∀ text ∈ texts, IsSingle text) :
    IsNested (texts.map .line) := by
  induction texts with
  | nil => exact .nil
  | cons text rest inductionHypothesis =>
      obtain ⟨first, others⟩ := List.forall_mem_cons.1 single
      exact .single first (inductionHypothesis others)

end IsNested

/-- A line that is scanned without closing a block leads on to the next depth. -/
theorem IsScanned.isWellNested {depth : Nat} {line : String} {opensBlock : Bool}
    (scanned : IsScanned depth line opensBlock) {rest : List String}
    (later : IsWellNested (if opensBlock then depth + 1 else depth) rest) :
    IsWellNested depth (line :: rest) := by
  have notClosing : untabbed line ≠ "end" := scanned.notClosing
  rw [IsWellNested, if_neg notClosing, scanned.opening]
  exact ⟨scanned.placed, later⟩

/-- The line that closes a block is scanned at the depth behind it. -/
theorem isWellNested_closing (depth : Nat) {rest : List String} (later : IsWellNested depth rest) :
    IsWellNested (depth + 1)
      (Part.indentLine (tabs depth) (shownLine depth closing) :: rest) := by
  have line : Part.indentLine (tabs depth) (shownLine depth closing) = tabs depth ++ "end" := by
    cases depth <;> rfl
  have noTab : "end".toList.head? ≠ some '\t' := by decide
  obtain ⟨found, counted⟩ := untabbed_tabs depth noTab
  rw [line, IsWellNested, if_pos found]
  refine ⟨depth, rfl, ⟨fun _ => counted, ?_⟩, later⟩
  rw [found]
  refine iff_of_false (by decide) fun ⟨isOutermost, _, _, differs⟩ => ?_
  subst isOutermost
  exact differs (by decide)

/-- The indentation of a block is that of the next depth. -/
theorem tabs_append_tab (depth : Nat) : tabs depth ++ "\t" = tabs (depth + 1) := by
  apply String.toList_injective
  simp [tabs, List.replicate_succ']

/-- Blocks that are scanned each for itself are scanned one after the other. -/
theorem isWellNested_blocks {depth : Nat} {blocks : List (List Part)}
    (each : ∀ block ∈ blocks, ∀ rest, IsWellNested (depth + 1) rest →
      IsWellNested (depth + 1) (Part.linesOf (tabs (depth + 1)) block ++ rest))
    {rest : List String} (later : IsWellNested (depth + 1) rest) :
    IsWellNested (depth + 1) (Part.linesOf (tabs depth) (blocks.map .block) ++ rest) := by
  induction blocks with
  | nil => exact later
  | cons block others inductionHypothesis =>
      obtain ⟨first, eachOther⟩ := List.forall_mem_cons.1 each
      rw [List.map_cons, Part.linesOf, Part.lines, tabs_append_tab, List.append_assoc]
      exact first _ (inductionHypothesis eachOther)

/-- Nested parts are scanned back to the depth where they begin, whatever follows. -/
theorem IsNested.isWellNested {parts : List Part} (nested : IsNested parts) (depth : Nat)
    {rest : List String} (later : IsWellNested depth rest) :
    IsWellNested depth (Part.linesOf (tabs depth) (parts.map (shownPart depth)) ++ rest) := by
  induction nested generalizing depth rest with
  | nil => exact later
  | single isSingle _ inductionHypothesis =>
      exact (isSingle.isScanned depth).isWellNested (inductionHypothesis depth later)
  | @record text blocks others isOpening _ _ inductionInside inductionHypothesis =>
      have kept : (blocks.map Part.block).map (shownPart depth) = blocks.map Part.block := by
        rw [List.map_map]
        rfl
      rw [List.map_cons, List.map_append, kept, List.map_cons, Part.linesOf, linesOf_append,
        Part.linesOf, List.append_assoc, List.append_assoc, List.append_assoc]
      refine (isOpening.isLine.isScanned depth).isWellNested (isWellNested_blocks ?_
        (isWellNested_closing depth (inductionHypothesis depth later)))
      intro block member more laterInside
      have scanned := inductionInside block member (depth + 1) laterInside
      rwa [map_shownPart_succ] at scanned

end Teal

end ApiStubs
