import ApiStubs.Proofs.Teal.Nesting

/-!
# Identifiers of a scope

A scan of the Teal file that remembers which identifiers the scopes it is in have declared. The
outermost level is a scope, and so is the body of each record.

- `declared?` reads the identifier off a line that declares one.
- `declaresOnce` is the scan; it fails at the second declaration of an identifier in one scope.
- `IsScoped` is the grammar of nested parts once more, with distinct identifiers in every record,
  and `IsScoped.declaresOnce` says that the scan passes over such parts.
-/

namespace ApiStubs

namespace Text

/-- The start of a text up to one of several characters. -/
def upTo (ends : List Char) (text : String) : String :=
  String.ofList (text.toList.takeWhile fun char => !ends.contains char)

/-- What stands behind the first space of a text. -/
def behindWord (text : String) : String :=
  String.ofList ((text.toList.dropWhile (· != ' ')).drop 1)

/-- A text without the start that it begins with, if it begins with it. -/
def withoutStart (start text : String) : String :=
  if beginsWith text start then dropFirst start.toList.length text else text

/-- A text without its last character. -/
def withoutLast (text : String) : String :=
  String.ofList text.toList.dropLast

/-- A text without the brackets that can stand behind the name of a function. -/
def IsUnbracketed (text : String) : Prop :=
  ∀ char ∈ text.toList, char ∉ ['(', '<']

instance (text : String) : Decidable (IsUnbracketed text) :=
  List.decidableBAll (fun char => char ∉ ['(', '<']) text.toList

variable {ends : List Char} {start : String}

/-- The start of a text is what stands in front of the first character that ends it. -/
theorem upTo_append (without : ∀ char ∈ start.toList, char ∉ ends) {rest : String}
    (isEnd : ∀ char ∈ rest.toList.head?, char ∈ ends) : upTo ends (start ++ rest) = start := by
  have passes : ∀ char ∈ start.toList, (!ends.contains char) = true := fun char member => by
    simpa using without char member
  have nothing : rest.toList.takeWhile (fun char => !ends.contains char) = [] := by
    cases chars : rest.toList with
    | nil => rfl
    | cons char more =>
        have ended : char ∈ ends := by simpa [chars] using isEnd
        simp [ended]
  rw [upTo, String.toList_append, List.takeWhile_append_of_pos passes, nothing, List.append_nil,
    String.ofList_toList]

/-- Behind the first word stands the rest. -/
theorem behindWord_append {first : String} (unspaced : ' ' ∉ first.toList) (rest : String) :
    behindWord (first ++ " " ++ rest) = rest := by
  have passes : ∀ char ∈ first.toList, (char != ' ') = true := fun char member => by
    rw [bne_iff_ne]
    rintro rfl
    exact unspaced member
  rw [behindWord, String.append_assoc, String.toList_append, List.dropWhile_append_of_pos passes]
  simp

/-- Nothing is left of a start that stands in front. -/
theorem withoutStart_append (start rest : String) : withoutStart start (start ++ rest) = rest := by
  rw [withoutStart, if_pos (beginsWith_append ..), String.length_toList, dropFirst_append]

end Text

namespace Teal

/-! ## The scan -/

/-- The identifier that a line without its tabs declares when it is not global. It stands behind
`record` and `type`, behind `function` in front of a bracket, and in front of a colon. -/
def declaredLocally? (text : String) : Option String :=
  let word := Text.upTo [' '] text
  let rest := Text.behindWord text
  if word = "record" ∨ word = "type" then some (Text.upTo [' '] rest)
  else if word = "function" then some (Text.upTo ['(', '<'] rest)
  else if Text.endsWith word ":" then some (Text.withoutLast word)
  else none

/-- The identifier that a line without its tabs declares. -/
def declared? (text : String) : Option String :=
  declaredLocally? (Text.withoutStart "global " text)

/-- Whether no scope in the lines declares an identifier twice. The scan knows what the scope it is
in has declared, and the scopes around it, from the inside to the outside. -/
def declaresOnce : (scope : List String) → (around : List (List String)) → List String → Bool
  | _, _, [] => true
  | scope, around, line :: rest =>
      if untabbed line = closing then
        !around.isEmpty && declaresOnce (around.headD []) around.tail rest
      else
        let declared := (declared? (untabbed line)).toList
        declared.all (!scope.contains ·) &&
          if opens (untabbed line) then declaresOnce [] ((scope ++ declared) :: around) rest
          else declaresOnce (scope ++ declared) around rest

/-! ## Identifiers of lines -/

/-- What a line with a first word declares depends on that word. -/
theorem declared?_words {first : String} (rest : String) (unspaced : ' ' ∉ first.toList)
    (notGlobal : first ≠ "global") :
    declared? (first ++ " " ++ rest) =
      if first = "record" ∨ first = "type" then some (Text.upTo [' '] rest)
      else if first = "function" then some (Text.upTo ['(', '<'] rest)
      else if Text.endsWith first ":" then some (Text.withoutLast first)
      else none := by
  have whole : Text.withoutStart "global " (first ++ " " ++ rest) = first ++ " " ++ rest := by
    have begins := Text.beginsWith_word rest unspaced (show ' ' ∉ "global".toList by decide)
    exact if_neg fun isGlobal => notGlobal (begins.1 isGlobal)
  have without : ∀ char ∈ first.toList, char ∉ [' '] := by
    intro char member isSpace
    rw [List.mem_singleton.1 isSpace] at member
    exact unspaced member
  have word : Text.upTo [' '] (first ++ (" " ++ rest)) = first :=
    Text.upTo_append without (by simp)
  rw [← String.append_assoc] at word
  rw [declared?, whole, declaredLocally?, word, Text.behindWord_append unspaced]

/-- A record or a type is declared under the word behind the first one. -/
theorem declared?_type {keyword name rest : String} (isKeyword : keyword ∈ ["record ", "type "])
    (unspaced : Text.IsUnspaced name) (isEnd : ∀ char ∈ rest.toList.head?, char = ' ') :
    declared? (keyword ++ name ++ rest) = some name := by
  obtain ⟨first, rfl, unspacedFirst, notGlobal, isType⟩ : ∃ first, keyword = first ++ " " ∧
      ' ' ∉ first.toList ∧ first ≠ "global" ∧ (first = "record" ∨ first = "type") := by
    simp only [List.mem_cons, List.not_mem_nil, or_false] at isKeyword
    rcases isKeyword with rfl | rfl
    · exact ⟨"record", rfl, by decide, by decide, .inl rfl⟩
    · exact ⟨"type", rfl, by decide, by decide, .inr rfl⟩
  have without : ∀ char ∈ name.toList, char ∉ [' '] := fun char member isSpace =>
    (unspaced char member).1 (List.mem_singleton.1 isSpace)
  rw [String.append_assoc, declared?_words _ unspacedFirst notGlobal, if_pos isType,
    Text.upTo_append without (by simpa using isEnd)]

/-- A function is declared under the name in front of the bracket. -/
theorem declared?_function {name : String} (unbracketed : Text.IsUnbracketed name) {bracket : Char}
    (isBracket : bracket ∈ ['(', '<']) (shape : String) :
    declared? ("function " ++ name ++ String.singleton bracket ++ shape) = some name := by
  have begins : ∀ char ∈ (String.singleton bracket ++ shape).toList.head?, char ∈ ['(', '<'] := by
    simpa using isBracket
  rw [show "function " = "function" ++ " " from rfl, String.append_assoc, String.append_assoc,
    declared?_words _ (by decide) (by decide), if_neg (by decide), if_pos rfl,
    Text.upTo_append unbracketed begins]

/-- A member is declared under the name in front of the colon. -/
theorem declared?_member {name : String} (unspaced : Text.IsUnspaced name) (rest : String) :
    declared? (name ++ ": " ++ rest) = some name := by
  have unspacedWord : ' ' ∉ (name ++ ":").toList := by
    have unspacedName : ' ' ∉ name.toList := fun member => (unspaced ' ' member).1 rfl
    simp [unspacedName]
  have differs (word : String) (without : ':' ∉ word.toList) : name ++ ":" ≠ word := by
    rintro rfl
    simp at without
  have last : Text.withoutLast (name ++ ":") = name := by
    simp [Text.withoutLast]
  rw [show ": " = ":" ++ " " from rfl, ← String.append_assoc,
    declared?_words rest unspacedWord (differs _ (by decide)),
    if_neg (not_or.2 ⟨differs _ (by decide), differs _ (by decide)⟩),
    if_neg (differs _ (by decide)), if_pos (Text.endsWith_append ..), last]

/-- The lines of comments and of metamethods declare nothing. -/
theorem declared?_remark {keyword : String} (isKeyword : keyword ∈ ["-- ", "metamethod "])
    (rest : String) : declared? (keyword ++ rest) = none := by
  obtain ⟨first, rfl, unspaced, notGlobal, notType, notFunction, noColon⟩ :
      ∃ first, keyword = first ++ " " ∧ ' ' ∉ first.toList ∧ first ≠ "global" ∧
        ¬(first = "record" ∨ first = "type") ∧ first ≠ "function" ∧
        ¬Text.endsWith first ":" = true := by
    simp only [List.mem_cons, List.not_mem_nil, or_false] at isKeyword
    rcases isKeyword with rfl | rfl
    · exact ⟨"--", rfl, by decide⟩
    · exact ⟨"metamethod", rfl, by decide⟩
  rw [declared?_words rest unspaced notGlobal, if_neg notType, if_neg notFunction, if_neg noColon]

/-- Making a line global changes nothing about what it declares. -/
theorem declared?_global {text : String} (notGlobal : Text.beginsWith text "global " = false) :
    declared? ("global " ++ text) = declared? text := by
  rw [declared?, Text.withoutStart_append, declared?, Text.withoutStart,
    if_neg (by simp [notGlobal])]

example : declared? "global function print(text: string)" = some "print" := by decide

/-- A line declares the same wherever it is shown. -/
theorem IsLine.declared?_shown {text : String} {opensBlock : Bool}
    (isLine : IsLine text opensBlock) (depth : Nat) :
    declared? (untabbed (Part.indentLine (tabs depth) (shownLine depth text))) =
      declared? text := by
  have shown : declared? (shownLine depth text) = declared? text ∧
      (shownLine depth text).toList.head? ≠ some '\t' ∧ shownLine depth text ≠ "" := by
    cases depth with
    | succ depth => exact ⟨rfl, isLine.noTab, isLine.nonempty⟩
    | zero =>
        rw [shownLine, Part.exposeLine]
        split
        · exact ⟨declared?_global isLine.notGlobal, by simp, by simp⟩
        · exact ⟨rfl, isLine.noTab, isLine.nonempty⟩
  rw [Part.indentLine, if_neg shown.2.2, (untabbed_tabs depth shown.2.1).1, shown.1]

/-- A line that opens nothing declares the same wherever it is shown. -/
theorem IsSingle.declared?_shown {text : String} (isSingle : IsSingle text) (depth : Nat) :
    declared? (untabbed (Part.indentLine (tabs depth) (shownLine depth text))) =
      declared? text := by
  by_cases empty : text = ""
  · rw [empty, indentLine_shownLine_empty]
    rfl
  · exact (isSingle.isLine empty).declared?_shown depth

/-! ## The grammar of scopes -/

/-- The identifier that a part declares in the scope where it stands. -/
def Part.declared? : Part → Option String
  | .line text => Teal.declared? text
  | .block _ => none

/-- The identifiers that the lines among parts declare, apart from those in blocks. -/
def declaredNames (parts : List Part) : List String :=
  parts.filterMap Part.declared?

/-- Nested parts in which every record declares distinct identifiers. -/
inductive IsScoped : List Part → Prop
  | nil : IsScoped []
  | single {text : String} {rest : List Part} (isSingle : IsSingle text)
      (isScoped : IsScoped rest) : IsScoped (.line text :: rest)
  | record {text : String} {blocks : List (List Part)} {rest : List Part}
      (isOpening : IsOpening text) (inside : ∀ block ∈ blocks, IsScoped block)
      (distinct : (blocks.flatMap declaredNames).Nodup) (isScoped : IsScoped rest) :
      IsScoped (.line text :: (blocks.map .block ++ .line closing :: rest))

/-- Scoped parts one after the other are scoped. -/
theorem IsScoped.append {first second : List Part} (isScoped : IsScoped first)
    (later : IsScoped second) : IsScoped (first ++ second) := by
  induction isScoped with
  | nil => exact later
  | single isSingle _ inductionHypothesis => exact .single isSingle inductionHypothesis
  | record isOpening inside distinct _ _ inductionHypothesis =>
      simp only [List.cons_append, List.append_assoc]
      exact .record isOpening inside distinct inductionHypothesis

/-- What several parts declare is what the first ones and then the others declare. -/
theorem declaredNames_append (first second : List Part) :
    declaredNames (first ++ second) = declaredNames first ++ declaredNames second :=
  List.filterMap_append

/-- What a line in front of parts adds to what they declare. -/
theorem declaredNames_line (text : String) (rest : List Part) :
    declaredNames (.line text :: rest) = (declared? text).toList ++ declaredNames rest := by
  rw [declaredNames, List.filterMap_cons, Part.declared?]
  cases declared? text <;> rfl

/-- Blocks declare nothing in the scope where they stand. -/
theorem declaredNames_blocks (blocks : List (List Part)) :
    declaredNames (blocks.map .block) = [] := by
  simp [declaredNames, Part.declared?]

/-- A record declares its name alone. -/
theorem declaredNames_record (text : String) (blocks : List (List Part)) (rest : List Part) :
    declaredNames (.line text :: (blocks.map .block ++ .line closing :: rest)) =
      (declared? text).toList ++ declaredNames rest := by
  have nothing : declared? closing = none := by decide
  rw [declaredNames_line, declaredNames_append, declaredNames_blocks, declaredNames_line, nothing]
  rfl

/-! ## Scanning scopes -/

variable {scope : List String} {around : List (List String)} {rest : List String}

/-- A line that closes nothing is scanned when it declares nothing that the scope has declared. -/
theorem IsScanned.declaresOnce {depth : Nat} {line : String} {opensBlock : Bool}
    (isScanned : IsScanned depth line opensBlock) {name? : Option String}
    (declares : declared? (untabbed line) = name?) (fresh : ∀ name ∈ name?, name ∉ scope)
    (later : (if opensBlock then Teal.declaresOnce [] ((scope ++ name?.toList) :: around) rest
      else Teal.declaresOnce (scope ++ name?.toList) around rest) = true) :
    Teal.declaresOnce scope around (line :: rest) = true := by
  rw [Teal.declaresOnce, if_neg isScanned.notClosing, declares, isScanned.opening,
    Bool.and_eq_true]
  exact ⟨by simpa using fresh, later⟩

/-- The end of a record leads back into the scope around it. -/
theorem declaresOnce_closing (depth : Nat) {inner : List String}
    (later : declaresOnce scope around rest = true) :
    declaresOnce inner (scope :: around)
      (Part.indentLine (tabs depth) (shownLine depth closing) :: rest) = true := by
  have line : untabbed (Part.indentLine (tabs depth) (shownLine depth closing)) = closing := by
    have noTab : "end".toList.head? ≠ some '\t' := by decide
    cases depth <;> exact (untabbed_tabs _ noTab).1
  rw [declaresOnce, if_pos line]
  exact later

/-- Blocks that are scanned each for itself are scanned one after the other. -/
theorem declaresOnce_blocks {depth : Nat} {blocks : List (List Part)}
    (each : ∀ block ∈ blocks, ∀ scope rest, (scope ++ declaredNames block).Nodup →
      declaresOnce (scope ++ declaredNames block) around rest = true →
      declaresOnce scope around (Part.linesOf (tabs (depth + 1)) block ++ rest) = true)
    (distinct : (scope ++ blocks.flatMap declaredNames).Nodup)
    (later : declaresOnce (scope ++ blocks.flatMap declaredNames) around rest = true) :
    declaresOnce scope around
      (Part.linesOf (tabs depth) (blocks.map .block) ++ rest) = true := by
  induction blocks generalizing scope with
  | nil => simpa [Part.linesOf] using later
  | cons block others inductionHypothesis =>
      obtain ⟨first, eachOther⟩ := List.forall_mem_cons.1 each
      rw [List.flatMap_cons, ← List.append_assoc] at distinct later
      rw [List.map_cons, Part.linesOf, Part.lines, tabs_append_tab, List.append_assoc]
      exact first _ _ (List.nodup_append.1 distinct).1
        (inductionHypothesis eachOther distinct later)

/-- The scan passes over scoped parts that declare distinct identifiers which the scope does not
have, at every depth and whatever follows. -/
theorem IsScoped.declaresOnce {parts : List Part} (isScoped : IsScoped parts) (depth : Nat)
    (distinct : (scope ++ declaredNames parts).Nodup)
    (later : Teal.declaresOnce (scope ++ declaredNames parts) around rest = true) :
    Teal.declaresOnce scope around
      (Part.linesOf (tabs depth) (parts.map (shownPart depth)) ++ rest) = true := by
  -- A name that a line declares in front of other declarations is not among those before it.
  have fresh {text : String} {names : List String} {scope : List String}
      (distinct : (scope ++ ((declared? text).toList ++ names)).Nodup) :
      ∀ name ∈ declared? text, name ∉ scope := by
    intro name isDeclared known
    rw [Option.mem_def.1 isDeclared] at distinct
    exact (List.nodup_append.1 distinct).2.2 name known name (by simp) rfl
  induction isScoped generalizing depth scope around rest with
  | nil => simpa [declaredNames, Part.linesOf] using later
  | @single text others isSingle _ inductionHypothesis =>
      rw [declaredNames_line] at distinct later
      have isFresh := fresh distinct
      rw [← List.append_assoc] at distinct later
      rw [List.map_cons, Part.linesOf, List.append_assoc]
      exact (isSingle.isScanned depth).declaresOnce (isSingle.declared?_shown depth) isFresh
        (inductionHypothesis depth distinct later)
  | @record text blocks others isOpening _ distinctInside _ inductionInside inductionHypothesis =>
      rw [declaredNames_record] at distinct later
      have isFresh := fresh distinct
      rw [← List.append_assoc] at distinct later
      have kept : (blocks.map Part.block).map (shownPart depth) = blocks.map Part.block := by
        rw [List.map_map]
        rfl
      rw [List.map_cons, List.map_append, kept, List.map_cons, Part.linesOf, linesOf_append,
        Part.linesOf, List.append_assoc, List.append_assoc, List.append_assoc]
      refine (isOpening.isLine.isScanned depth).declaresOnce
        (isOpening.isLine.declared?_shown depth) isFresh (declaresOnce_blocks ?_ distinctInside
          (declaresOnce_closing depth (inductionHypothesis depth distinct later)))
      intro block member scope rest distinct later
      have scanned := inductionInside block member (depth + 1) distinct later
      rwa [map_shownPart_succ] at scanned

end Teal

end ApiStubs
