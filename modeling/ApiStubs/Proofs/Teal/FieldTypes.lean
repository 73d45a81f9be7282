import ApiStubs.Proofs.Teal.Faults
import ApiStubs.Proofs.Teal.Layout
import ApiStubs.Proofs.Types.Balance
import ApiStubs.Proofs.Types.Default

/-!
# The types of fields

The text of a field is cut at its first space, whatever is open in front of it. A type without
spaces is kept whole, so a balanced one is written balanced and the lines above it are those of the
comment alone. The signature of a function with several parameters has spaces, though: what is
declared is the part in front of the first one, and the rest of the signature goes into the comment.
-/

namespace ApiStubs

open ApiStubs.Reference ApiStubs.Value ApiStubs.Types

/-! ## Field texts -/

namespace Text

/-- The characters of a text without spaces pass as those in front of the first one. -/
theorem solid_of_unspaced {text : String} (unspaced : ' ' ∉ text.toList) :
    ∀ char ∈ text.toList, (char != ' ') = true := fun _ member =>
  bne_iff_ne.2 fun isSpace => unspaced (isSpace ▸ member)

/-- A field text without a space is a type. -/
theorem splitField_of_unspaced {type : String} (unspaced : ' ' ∉ type.toList) :
    splitField type = (type, "") := by
  have whole : type.toList.span (· != ' ') = (type.toList, []) := by
    rw [List.span_eq_takeWhile_dropWhile,
      List.takeWhile_eq_self_iff.2 (solid_of_unspaced unspaced),
      List.dropWhile_eq_nil_iff.2 (solid_of_unspaced unspaced)]
  rw [splitField, whole]

/-- Behind its first space, a field text is a comment. -/
theorem splitField_append {type : String} (unspaced : ' ' ∉ type.toList) (comment : String) :
    splitField (type ++ " " ++ comment) = (type, trim comment) := by
  have space : " ".toList = [' '] := by decide
  have cut : (type ++ " " ++ comment).toList.span (· != ' ') =
      (type.toList, ' ' :: comment.toList) := by
    rw [List.span_eq_takeWhile_dropWhile, String.toList_append, String.toList_append, space,
      List.append_assoc, List.singleton_append,
      List.takeWhile_append_of_pos (solid_of_unspaced unspaced),
      List.dropWhile_append_of_pos (solid_of_unspaced unspaced)]
    simp
  rw [splitField, cut]
  simp [trim]

end Text

namespace Types

/-- A type whose spaces stand inside parentheses. -/
def SpacesInside (type : String) : Prop :=
  ∀ place < type.toList.length, type.toList[place]? = some ' ' →
    depthThrough charMark 0 (type.toList.take place) ≠ 0

instance (type : String) : Decidable (SpacesInside type) :=
  inferInstanceAs (Decidable (∀ place < type.toList.length, _ → _))

/-- A parenthesis is open in front of each space of such a type. -/
theorem SpacesInside.openBehind {front rest : String}
    (inside : SpacesInside (front ++ " " ++ rest)) : openBehind front ≠ 0 := by
  have space : " ".toList = [' '] := by decide
  have chars : (front ++ " " ++ rest).toList = front.toList ++ ' ' :: rest.toList := by
    simp [space]
  have opened := inside front.toList.length (by simp [chars]) (by simp [chars])
  rwa [chars, List.take_left] at opened

end Types

namespace Teal

/-- The text of a field: its type alone, or its type and a comment behind a space. -/
def IsFieldText (type comment text : String) : Prop :=
  text = type ∧ comment = "" ∨ text = type ++ " " ++ comment

/-- What is declared for a field: the lines of a comment, and the line of a member with the type
that is written for a documented one. -/
def DeclaresField (writer : StubWriter) (fullName name type comment written : String)
    (parts : List Part) : Prop :=
  spellFor writer (.text type) (.text fullName) (.text name) = .ok (.text written) ∧
    ∃ comments, commentParts (.text (Text.trim comment)) = .ok comments ∧
      parts = comments ++ [.line (name ++ ": " ++ written)]

/-- The comment lines of a description, as parts. -/
theorem commentParts_eq_ok {description : Value} {lines : List String}
    (made : Text.lineComments description = .ok lines) :
    commentParts description = .ok (lines.map .line) := by
  rw [commentParts, made]
  rfl

section Fields

variable {writer : StubWriter} {fullName name type comment text written : String}

/-- A field text without a space in its type is cut behind the type. -/
theorem splitField_of_isFieldText (isText : IsFieldText type comment text)
    (unspaced : ' ' ∉ type.toList) : Text.splitField text = (type, Text.trim comment) := by
  rcases isText with ⟨rfl, rfl⟩ | rfl
  · rw [Text.splitField_of_unspaced unspaced, Text.trim_empty]
  · exact Text.splitField_append unspaced comment

/-- A type with a space is cut from its field text at the first one. -/
theorem exists_front_of_isFieldText (isText : IsFieldText type comment text)
    (spaced : ' ' ∈ type.toList) : ∃ front back rest, type = front ++ " " ++ back ∧
      ' ' ∉ front.toList ∧ text = front ++ " " ++ rest := by
  obtain ⟨before, after, cut, first⟩ := List.eq_append_cons_of_mem spaced
  have space : " ".toList = [' '] := by decide
  have isType : type = String.ofList before ++ " " ++ String.ofList after :=
    String.toList_injective (by simp [cut, space])
  have unspaced : ' ' ∉ (String.ofList before).toList := by rwa [String.toList_ofList]
  rcases isText with ⟨rfl, rfl⟩ | rfl
  · exact ⟨_, _, _, isType, unspaced, isType⟩
  · refine ⟨_, _, String.ofList after ++ " " ++ comment, isType, unspaced, ?_⟩
    rw [isType]
    simp only [String.append_assoc]

/-- A field is declared as its text is cut. -/
theorem exists_field (cut : Text.splitField text = (type, Text.trim comment))
    (spelled : spellFor writer (.text type) (.text fullName) (.text name) = .ok (.text written)) :
    ∃ parts, fieldParts writer (.text fullName) name (.text text) = .ok parts ∧
      DeclaresField writer fullName name type comment written parts := by
  obtain ⟨comments, commented⟩ := exists_commentParts (.inr (isText_text (Text.trim comment)))
  refine ⟨comments ++ [.line (name ++ ": " ++ written)], ?_, spelled, comments, commented, rfl⟩
  simp only [fieldParts, cut, commented, spelled, Outcome.ok_bind]
  rfl

/-- An element that has no overrides has none for any of its types. -/
theorem overrideOf_of_unowned {dialect : Dialect}
    (unowned : Table.get? dialect.overrides fullName = none) (raw name : Value) :
    dialect.overrideOf raw { owner := .text fullName, name } = .ok .null := by
  rw [Dialect.overrideOf, lookupIn, Outcome.ok_bind, unowned]
  rfl

section Written

variable (able : (writer.speller .teal).dialect.CanSpell)
  (unowned : Table.get? writer.settings.teal.overrides fullName = none)

include able unowned

/-- A balanced type without spaces is kept whole, and is written balanced below the lines of the
comment. -/
theorem exists_field_of_unspaced (name : String) (balanced : writer.settings.teal.IsBalanced)
    (isText : IsFieldText type comment text) (isBalancedType : isBalanced type = true)
    (unspaced : ' ' ∉ type.toList) :
    ∃ parts written, fieldParts writer (.text fullName) name (.text text) = .ok parts ∧
      DeclaresField writer fullName name type comment written parts ∧
      isBalanced written = true := by
  have balancedHere : (writer.speller .teal).dialect.IsBalanced := balanced
  let site : Site := { owner := .text fullName, name := .text name }
  have owned : site.owner.IsText := isText_text fullName
  obtain ⟨written, spelled, isBalancedWritten⟩ := Speller.exists_balanced_spell able balancedHere
    isBalancedType owned rfl fun raw => overrideOf_of_unowned unowned (.text raw) (.text name)
  obtain ⟨parts, made, declares⟩ := exists_field (splitField_of_isFieldText isText unspaced) spelled
  exact ⟨parts, written, made, declares, isBalancedWritten⟩

/-- A signature that is cut behind an open parenthesis is written unbalanced. -/
theorem isBalanced_of_open_signature (once : writer.settings.teal.opaqueTypes.Nodup)
    (word : isBalanced writer.settings.teal.callableWord = true) {parameters : String}
    (signature : (writer.speller .teal).IsSignature parameters)
    (opens : openBehind ("function" ++ ("(" ++ parameters)) ≠ 0)
    (spelled : spellFor writer (.text ("function" ++ ("(" ++ parameters))) (.text fullName)
      (.text name) = .ok (.text written)) : isBalanced written = false := by
  have isLong : parameters ≠ ")" := by
    rintro rfl
    exact opens (by decide)
  have onceHere : (writer.speller .teal).dialect.opaqueTypes.Nodup := once
  have wordHere : isBalanced (writer.speller .teal).dialect.callableWord = true := word
  let site : Site := { owner := .text fullName, name := .text name }
  have owned : site.owner.IsText := isText_text fullName
  have writes := signature.spell isLong able onceHere owned rfl
    (overrideOf_of_unowned unowned _ (.text name))
  have isFunction : isBalanced "function" = true := by decide
  obtain rfl := Value.text.inj (Except.ok.inj (spelled.symm.trans writes))
  rw [isBalanced_append wordHere, ← isBalanced_append isFunction]
  exact isBalanced_of_openBehind opens

end Written

end Fields

/-! ## Classes -/

/-- A class is declared with each of its fields. A balanced type without spaces is kept whole: the
line of the field has what is written for it, which is balanced, and the lines above are those of
the comment. Of a type that has spaces, inside parentheses, the part in front of the first one is
taken. It leaves a parenthesis open, so a signature is written unbalanced, and the rest of the type
stands in the comment. -/
theorem class_field_types {writer : StubWriter} {element : Value} {className fullName : String}
    {fields : Table Value} (shaped : writer.settings.teal.IsShaped)
    (fills : writer.settings.teal.FillsArrays) (balanced : writer.settings.teal.IsBalanced)
    (unowned : Table.get? writer.settings.teal.overrides fullName = none)
    (documented : IsDocumentedElement element)
    (named : element.field? "name" = some (.text className))
    (hasFields : element.field? "fields" = some (.record fields)) :
    ∃ fieldLines operatorLines : List (List Part),
      declareClass writer element (.text fullName) = .ok {
        opening := [.line "", .line ("record " ++ className ++ " is userdata"),
          .block fieldLines.flatten, .block operatorLines.flatten]
        closing := [.line closing] } ∧
      List.Forall₂ (fun field parts => ∀ text type comment, field.2 = .text text →
        IsFieldText type comment text → isBalanced type = true → SpacesInside type →
          (' ' ∉ type.toList → ∃ written,
            DeclaresField writer fullName field.1 type comment written parts ∧
              isBalanced written = true) ∧
          (' ' ∈ type.toList → ∃ front rest written, text = front ++ " " ++ rest ∧
            ' ' ∉ front.toList ∧ openBehind front ≠ 0 ∧
            DeclaresField writer fullName field.1 front rest written parts ∧
            ∀ parameters, front = "function" ++ ("(" ++ parameters) →
              (writer.speller .teal).IsSignature parameters →
                writer.settings.teal.opaqueTypes.Nodup → isBalanced written = false))
        fields.sorted fieldLines := by
  have able : (writer.speller .teal).dialect.CanSpell := shaped.canSpell fills
  obtain ⟨declaration, returns⟩ := exists_declareClass shaped fills documented hasFields fullName
  obtain ⟨_, entries, fieldLines, _, operatorLines, found, read, declared, _, rfl⟩ :=
    exists_of_declareClass named returns
  obtain rfl := Option.some.inj (hasFields.symm.trans found)
  rw [sortedFields_record] at read
  obtain rfl := Except.ok.inj read
  refine ⟨fieldLines, operatorLines, returns, (Outcome.mapM_eq_ok.1 declared).imp ?_⟩
  rintro ⟨name, raw⟩ parts made text type comment rfl isText isBalancedType inside
  constructor
  · intro unspaced
    obtain ⟨_, written, madeToo, declares, isBalancedWritten⟩ :=
      exists_field_of_unspaced able unowned name balanced isText isBalancedType unspaced
    obtain rfl := Except.ok.inj (made.symm.trans madeToo)
    exact ⟨written, declares, isBalancedWritten⟩
  · intro spaced
    obtain ⟨front, back, rest, rfl, unspaced, rfl⟩ := exists_front_of_isFieldText isText spaced
    obtain ⟨_, spelled, written, rfl⟩ :=
      exists_spellFor shaped fills (isText_text front) fullName name
    obtain ⟨_, madeToo, declares⟩ := exists_field (Text.splitField_append unspaced rest) spelled
    obtain rfl := Except.ok.inj (made.symm.trans madeToo)
    refine ⟨front, rest, written, rfl, unspaced, inside.openBehind, declares, ?_⟩
    rintro parameters rfl signature once
    exact isBalanced_of_open_signature able unowned once balanced.callableWord signature
      inside.openBehind spelled

/-! ## Fields in the default dialect -/

/-- A class whose fields are texts. -/
def classOf (name : String) (fields : Table Value) : Value :=
  .record [("type", .text "BASIC_CLASS"), ("name", .text name), ("fields", .record fields)]

/-- Such a class is documented. -/
theorem isDocumentedElement_classOf (name : String) {fields : Table Value}
    (texts : fields.All IsText) : IsDocumentedElement (classOf name fields) where
  name := ⟨name, rfl⟩
  type := ⟨"BASIC_CLASS", rfl⟩
  description := nofun
  parameters := nofun
  results := nofun
  fields := by
    rintro _ ⟨⟩
    exact ⟨fields, rfl, texts.mono fun _ => .inl⟩
  operators := nofun
  target := fun isAlias => absurd (Value.text.inj (Option.some.inj isAlias)) (by decide)

/-- The words of the default dialect are balanced. -/
theorem isBalanced_defaultTeal : Settings.defaultTeal.IsBalanced where
  fallbackType := ⟨"any", rfl, by decide⟩
  substitutions := by
    have each : ∀ entry ∈ Settings.tealSubstitutions, isBalanced entry.2 = true := by decide
    exact List.forall_mem_map.2 fun entry member => ⟨entry.2, rfl, each entry member⟩
  callableWord := by decide
  arrays := by
    intro content filled isBalancedContent fills
    have opening : isBalanced (String.ofList ['\x7b']) = true := by decide
    have closing : IsPlain (String.ofList ['\x7d']) := by decide
    have braced := Pattern.fill_of_pieces pieces_tablePattern content
    obtain rfl := Except.ok.inj (braced.symm.trans fills)
    rw [isBalanced_append_plain closing, isBalanced_append opening]
    exact isBalancedContent

/-- A signature without spaces is declared whole by default, below its comment. -/
theorem field_type_of_unspaced_signature :
    let element := classOf "button" [("on_press", .text "function(self,other) Called on a press")]
    ∃ (operatorLines : List (List Part)) (written : String),
      declareClass Settings.defaultWriter element (.text "gui.button") = .ok {
        opening := [.line "", .line ("record " ++ "button" ++ " is userdata"),
          .block [.line "-- Called on a press", .line ("on_press" ++ ": " ++ written)],
          .block operatorLines.flatten]
        closing := [.line closing] } ∧
      spellFor Settings.defaultWriter (.text "function(self,other)") (.text "gui.button")
        (.text "on_press") = .ok (.text written) ∧
      isBalanced written = true := by
  intro element
  have documented : IsDocumentedElement element :=
    isDocumentedElement_classOf _ (List.forall_mem_singleton.2 (isText_text _))
  have unowned : Table.get? Settings.defaultWriter.settings.teal.overrides "gui.button" = none :=
    rfl
  have shaped : Settings.defaultWriter.settings.teal.IsShaped := Settings.isShaped_default.teal
  obtain ⟨fieldLines, operatorLines, returns, each⟩ := class_field_types shaped
    (.of_pieces pieces_tablePattern) isBalanced_defaultTeal unowned documented rfl rfl
  rw [Table.sorted, List.mergeSort_singleton] at each
  obtain ⟨parts, _, declared, none, rfl⟩ := List.forall₂_cons_left_iff.1 each
  obtain rfl := List.forall₂_nil_left_iff.1 none
  obtain ⟨written, ⟨spelled, comments, commented, rfl⟩, isBalancedWritten⟩ :=
    (declared _ "function(self,other)" "Called on a press" rfl (.inr rfl) (by decide)
      (by decide)).1 (by decide)
  have areLines : Text.lineComments (.text (Text.trim "Called on a press")) =
      .ok ["-- Called on a press"] :=
    Outcome.toOption_eq_some.1 (by decide +kernel)
  have areComments := commentParts_eq_ok areLines
  obtain rfl := Except.ok.inj (areComments.symm.trans commented)
  exact ⟨operatorLines, written, returns, spelled, isBalancedWritten⟩

/-- The signature of a function with three parameters is cut behind the first one. Its line leaves a
parenthesis open, and the rest of it stands in the comment, although there is a type for it. -/
theorem spaced_signature_is_cut :
    let element := classOf "button"
      [("on_click", .text "function(self, url, property) Called on a click")]
    isBalanced "function(self, url, property)" = true ∧
      SpacesInside "function(self, url, property)" ∧
      spellFor Settings.defaultWriter (.text "function(self, url, property)") (.text "button")
        (.text "on_click") = .ok (.text "function(self, url, hash)") ∧
      declareClass Settings.defaultWriter element (.text "button") = .ok {
        opening := [.line "", .line "record button is userdata",
          .block [.line "-- url, property) Called on a click", .line "on_click: function(self,"],
          .block []]
        closing := [.line "end"] } ∧
      isBalanced "function(self," = false := by
  intro element
  let site : Site := { owner := .text "button", name := .text "on_click" }
  have joins : (Settings.defaultWriter.speller .teal).joined
      (.text "function(self, url, property)") site = .ok ["function(self, url, hash)"] :=
    Outcome.toOption_eq_some.1 (by decide +kernel)
  have joinsFront : (Settings.defaultWriter.speller .teal).joined (.text "function(self,") site =
      .ok ["function(self,"] :=
    Outcome.toOption_eq_some.1 (by decide +kernel)
  have spelled : spellFor Settings.defaultWriter (.text "function(self, url, property)")
      (.text "button") (.text "on_click") = .ok (.text "function(self, url, hash)") :=
    Speller.spell_eq_ok.2 ⟨_, joins, rfl⟩
  have spelledFront : spellFor Settings.defaultWriter (.text "function(self,") (.text "button")
      (.text "on_click") = .ok (.text "function(self,") :=
    Speller.spell_eq_ok.2 ⟨_, joinsFront, rfl⟩
  have areLines : Text.lineComments (.text (Text.trim "url, property) Called on a click")) =
      .ok ["-- url, property) Called on a click"] :=
    Outcome.toOption_eq_some.1 (by decide +kernel)
  have areComments := commentParts_eq_ok areLines
  obtain ⟨parts, made, _, comments, commented, rfl⟩ := exists_field
    (Text.splitField_append (by decide) "url, property) Called on a click") spelledFront
  obtain rfl := Except.ok.inj (areComments.symm.trans commented)
  have declaredFields : ((Table.sorted [("on_click",
      Value.text "function(self, url, property) Called on a click")]).mapM fun field =>
        fieldParts Settings.defaultWriter (.text "button") field.1 field.2) =
      .ok [[.line "-- url, property) Called on a click", .line "on_click: function(self,"]] := by
    rw [Table.sorted, List.mergeSort_singleton]
    exact Outcome.mapM_eq_ok.2 (.cons made .nil)
  have declaredOperators : ((Table.sorted []).mapM fun operator =>
      operatorParts Settings.defaultWriter (.text "button") (.text "button") operator.1
        operator.2) = .ok [] := by
    rw [Table.sorted, List.mergeSort_nil]
    rfl
  exact ⟨by decide, by decide, spelled,
    declareClass_eq_ok rfl rfl rfl rfl declaredFields declaredOperators, by decide⟩

end Teal

end ApiStubs
