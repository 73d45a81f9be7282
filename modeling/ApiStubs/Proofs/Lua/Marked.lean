import ApiStubs.Proofs.Lua.Layout
import ApiStubs.Proofs.Text.Comment
import ApiStubs.Proofs.Value.Display
import ApiStubs.Signature

/-!
# Comment lines of Lua declarations

Descriptions and docs are any texts, and yet every line that a declaration makes of them begins with
the marker of comments: the makers put it in front of the lines that come after the first one, and
what the first one stands behind is a tag. What remains to be asked is that names, types, fields,
operators and the targets of aliases hold no newline.

- `IsUnbroken` says this of an element.
- `isMarked_parameterLine`, `isMarked_resultLine` and `isMarked_operatorLine` are about single tags.
- `FunctionLayout.isMarked_annotations` is about all lines in front of the code of a function.
-/

namespace ApiStubs

namespace Outcome

variable {α : Type}

/-- A result, if there is one, has a property. -/
def Yields (outcome : Outcome α) (holds : α → Prop) : Prop :=
  ∀ result, outcome = .ok result → holds result

instance (outcome : Outcome α) (holds : α → Prop) [DecidablePred holds] :
    Decidable (Yields outcome holds) :=
  match outcome with
  | .error _ => isTrue nofun
  | .ok result => decidable_of_iff (holds result) (by simp [Yields])

end Outcome

/-- A slot whose name and type hold no newline. -/
def Slot.IsUnbroken (slot : Slot) : Prop :=
  Text.IsUnbroken slot.name ∧ Text.IsUnbroken slot.type.display

instance (slot : Slot) : Decidable slot.IsUnbroken :=
  inferInstanceAs (Decidable (_ ∧ _))

namespace Signature

open ApiStubs.Types

/-- A placeholder brings no newline into a slot. -/
theorem isUnbroken_generalize (type : Value) {slot : Slot} (unbroken : slot.IsUnbroken) :
    (slot.generalize type).IsUnbroken := by
  rw [Slot.generalize]
  split
  · exact ⟨unbroken.1, (by decide : Text.IsUnbroken Slot.placeholder)⟩
  · exact unbroken

/-- A signature holds no newline when the slots that it is made of hold none. -/
theorem isUnbroken_of_generalize {parameters results : List Slot} (type : Value)
    (unbroken : ∀ slot ∈ parameters ++ results, slot.IsUnbroken) :
    (∀ slot ∈ (generalize parameters results type).parameters, slot.IsUnbroken) ∧
      (∀ slot ∈ (generalize parameters results type).results, slot.IsUnbroken) ∧
      ∀ found, (generalize parameters results type).generalized? = some found →
        Text.IsUnbroken found.display := by
  have slots : ∀ slot ∈ (Slot.generalizeAll (parameters ++ results) type).1, slot.IsUnbroken := by
    rw [Slot.generalizeAll.eq_def]
    split
    · exact unbroken
    · split
      · exact unbroken
      · exact List.forall_mem_map.2 fun slot member =>
          isUnbroken_generalize type (unbroken slot member)
  refine ⟨fun slot member => slots slot (List.mem_of_mem_take member),
    fun slot member => slots slot (List.mem_of_mem_drop member), fun found isFound => ?_⟩
  -- The type that gives way is the type of some slot.
  have several : (Slot.generalizeAll (parameters ++ results) type).2 = true ∧ type = found := by
    simpa [generalize, Option.ite_none_right_eq_some] using isFound
  obtain ⟨isGeneralized, rfl⟩ := several
  rw [Slot.generalizeAll.eq_def] at isGeneralized
  split at isGeneralized
  · cases isGeneralized
  · split at isGeneralized
    · cases isGeneralized
    · next many =>
        have some : 0 < (parameters ++ results).countP fun slot => slot.hasType type :=
          Nat.lt_of_lt_of_le Nat.two_pos (Nat.not_lt.1 many)
        obtain ⟨slot, member, hasType⟩ := List.countP_pos_iff.1 some
        exact Value.isUnbroken_display_of_same hasType (unbroken slot member).2

/-- A signature holds no newline when the slots of both sides of its element hold none. -/
theorem isUnbroken_ofElement {speller : Speller} {owner element : Value} {signature : Signature}
    (unbroken : ∀ side ∈ [Side.argument, Side.result],
      Outcome.Yields (readSide speller side owner element) fun slots =>
        ∀ slot ∈ slots, slot.IsUnbroken)
    (returns : ofElement speller owner element = .ok signature) :
    (∀ slot ∈ signature.parameters, slot.IsUnbroken) ∧
      (∀ slot ∈ signature.results, slot.IsUnbroken) ∧
      ∀ found, signature.generalized? = some found → Text.IsUnbroken found.display := by
  simp only [ofElement, Outcome.bind_eq_ok, Outcome.pure_eq_ok] at returns
  obtain ⟨parameters, readParameters, results, readResults, type?, _, rfl⟩ := returns
  exact isUnbroken_of_generalize _ (List.forall_mem_append.2
    ⟨unbroken .argument (by simp) parameters readParameters,
      unbroken .result (by simp) results readResults⟩)

end Signature

namespace Lua

open ApiStubs.Reference ApiStubs.Types

/-- What an operator puts into its line holds no newline. -/
def IsOperatorUnbroken (operator : String × Value) : Prop :=
  Text.IsUnbroken operator.1 ∧
    Outcome.Yields (operator.2.get "param") (fun param => Text.IsUnbroken param.display) ∧
    Outcome.Yields (operator.2.require "result") fun result => Text.IsUnbroken result.display

instance (operator : String × Value) : Decidable (IsOperatorUnbroken operator) :=
  inferInstanceAs (Decidable (_ ∧ _ ∧ _))

/-- What an element of a name puts into its declaration besides the name holds no newline: names and
spelled types of parameters and return values, fields, operators and the target of an alias. -/
def ArePartsUnbroken (writer : StubWriter) (element name : Value) : Kind → Prop
  | .variable => True
  | .function => ∀ side ∈ [Side.argument, Side.result],
      Outcome.Yields (Signature.readSide (writer.speller .lua) side name element) fun slots =>
        ∀ slot ∈ slots, slot.IsUnbroken
  | .classType =>
      Outcome.Yields (element.require "fields" >>= Value.sortedFields) (fun fields =>
        ∀ field ∈ fields, Text.IsUnbroken field.1 ∧ Text.IsUnbroken field.2.display) ∧
      Outcome.Yields (element.get "operators" >>= fun operators =>
        (operators.orElse (.record [])).sortedFields) fun operators =>
          ∀ operator ∈ operators, IsOperatorUnbroken operator
  | .aliasType =>
      Outcome.Yields (element.require "alias") fun target => Text.IsUnbroken target.display

instance (writer : StubWriter) (element name : Value) :
    (kind : Kind) → Decidable (ArePartsUnbroken writer element name kind)
  | .variable => inferInstanceAs (Decidable True)
  | .function => inferInstanceAs (Decidable (∀ side ∈ _, Outcome.Yields _ _))
  | .classType => inferInstanceAs (Decidable (Outcome.Yields _ _ ∧ Outcome.Yields _ _))
  | .aliasType => inferInstanceAs (Decidable (Outcome.Yields _ _))

/-- What an element puts into the lines of its declaration holds no newline. Nothing is asked of
descriptions and docs. -/
def IsUnbroken (writer : StubWriter) (kind : Kind) (element : Value) : Prop :=
  Outcome.Yields (element.require "name") fun name =>
    Text.IsUnbroken name.display ∧ ArePartsUnbroken writer element name kind

instance (writer : StubWriter) (kind : Kind) (element : Value) :
    Decidable (IsUnbroken writer kind element) :=
  inferInstanceAs (Decidable (Outcome.Yields _ _))

/-! ## Lines -/

/-- The line of a parameter is a start of one line with the doc behind it, without the blanks at the
end. -/
theorem exists_of_parameterLine {slot : Slot} {doc : Value} {line : String}
    (returns : parameterLine slot doc = .ok line) :
    ∃ description, Text.commentTail doc Text.declarationMarker = .ok description ∧
      line = Text.trimEnd
        ("---@param " ++ slot.name ++ " " ++ slot.type.display ++ " " ++ description) := by
  simp only [parameterLine, Outcome.bind_eq_ok, Outcome.pure_eq_ok] at returns
  obtain ⟨description, isTail, rfl⟩ := returns
  exact ⟨description, isTail, rfl⟩

/-- The start of the line of a parameter holds no newline. -/
theorem isUnbroken_parameterStart {slot : Slot} (unbroken : slot.IsUnbroken) :
    Text.IsUnbroken ("---@param " ++ slot.name ++ " " ++ slot.type.display ++ " ") := by
  simp only [Text.isUnbroken_append]
  exact ⟨⟨⟨⟨by decide, unbroken.1⟩, by decide⟩, unbroken.2⟩, by decide⟩

/-- The line of a parameter is marked: blanks behind the type and the doc are removed, but not the
marker. -/
theorem isMarked_parameterLine {slot : Slot} (unbroken : slot.IsUnbroken) {doc : Value}
    {line : String} (returns : parameterLine slot doc = .ok line) : Text.IsMarked line := by
  obtain ⟨description, isTail, rfl⟩ := exists_of_parameterLine returns
  have begins : Text.beginsWith ("---@param " ++ slot.name ++ " " ++ slot.type.display ++ " ")
      Text.declarationMarker = true := by
    simp only [String.append_assoc]
    exact Text.beginsWith_append_right (by decide) _
  exact (Text.isMarked_append_commentTail (isUnbroken_parameterStart unbroken) begins
    isTail).trimEnd

/-- A join begins with its first text. -/
theorem beginsWith_join (separator first : String) (rest : List String) :
    Text.beginsWith (Text.join separator (first :: rest)) first = true := by
  cases rest with
  | nil => simpa [Text.join] using Text.beginsWith_append first ""
  | cons second others =>
      rw [Text.join, String.append_assoc]
      exact Text.beginsWith_append ..

/-- A last word is set apart from those before it by a space, if there are any and it is not
empty. -/
theorem exists_join_words (words : List String) (last : String) :
    ∃ gap ∈ ["", " "], Text.join " " (words ++ [last].filter fun part => part != "") =
      Text.join " " words ++ gap ++ last := by
  by_cases silent : last = ""
  · exact ⟨"", by simp, by simp [silent]⟩
  · have stays : [last].filter (fun part => part != "") = [last] := by simp [silent]
    rw [stays]
    by_cases alone : words = []
    · exact ⟨"", by simp, by simp [alone, Text.join]⟩
    · exact ⟨" ", by simp, Text.join_concat " " alone last⟩

/-- The line of a return value is a start of one line with the doc behind it. The start holds the
type and the name, as far as they are not empty. -/
theorem exists_of_resultLine {slot : Slot} {doc : Value} {line : String}
    (returns : resultLine slot doc = .ok line) :
    ∃ description start, Text.commentTail doc Text.declarationMarker = .ok description ∧
      line = start ++ description ∧
      Text.beginsWith start ("---@return " ++ slot.type.display) = true ∧
      (slot.IsUnbroken → Text.IsUnbroken start) := by
  simp only [resultLine, Outcome.bind_eq_ok, Outcome.pure_eq_ok, Value.asText_eq_ok] at returns
  obtain ⟨description, isTail, type, isType, rfl⟩ := returns
  rw [Slot.IsUnbroken, isType, Value.display_text]
  have parts : [type, slot.name, description].filter (fun part => part != "") =
      ([type, slot.name].filter fun part => part != "") ++
        [description].filter fun part => part != "" := List.filter_append [type, slot.name] _
  have begins : Text.beginsWith (Text.join " " ([type, slot.name].filter fun part => part != ""))
      type = true := by
    by_cases untyped : type = ""
    · rw [untyped]
      exact Text.beginsWith_append "" _
    · rw [List.filter_cons_of_pos (by simpa using untyped)]
      exact beginsWith_join ..
  have areWords : ∀ part ∈ [type, slot.name].filter fun part => part != "",
      part = type ∨ part = slot.name := fun part member =>
    List.mem_pair.1 (List.mem_filter.1 member).1
  rw [parts]
  generalize ([type, slot.name].filter fun part => part != "") = words at begins areWords
  obtain ⟨gap, isGap, joined⟩ := exists_join_words words description
  refine ⟨description, "---@return " ++ Text.join " " words ++ gap, isTail, ?_, ?_, ?_⟩
  · rw [joined]
    simp only [String.append_assoc]
  · rw [String.append_assoc, Text.beginsWith_append_append]
    exact Text.beginsWith_append_right begins gap
  · rintro ⟨unbrokenName, unbrokenType⟩
    have unbrokenWords : ∀ word ∈ words, Text.IsUnbroken word := by
      intro word member
      rcases areWords word member with rfl | rfl
      · exact unbrokenType
      · exact unbrokenName
    have unbrokenGap : ∀ gap ∈ ["", " "], Text.IsUnbroken gap := by decide
    simp only [Text.isUnbroken_append]
    exact ⟨⟨by decide, Text.isUnbroken_join (by decide) unbrokenWords⟩, unbrokenGap gap isGap⟩

/-- The line of a return value is marked. -/
theorem isMarked_resultLine {slot : Slot} (unbroken : slot.IsUnbroken) {doc : Value} {line : String}
    (returns : resultLine slot doc = .ok line) : Text.IsMarked line := by
  obtain ⟨description, start, isTail, rfl, begins, unbrokenStart⟩ := exists_of_resultLine returns
  refine Text.isMarked_append_commentTail (unbrokenStart unbroken) ?_ isTail
  have marker : "---@return " = Text.declarationMarker ++ "@return " := by decide
  rw [marker, String.append_assoc] at begins
  exact Text.beginsWith_of_beginsWith_append _ begins

/-- The lines of slots are marked when that of each slot is. -/
theorem isMarked_describeSlots {line : Slot → Value → Outcome String}
    (each : ∀ {slot : Slot}, slot.IsUnbroken → ∀ {doc : Value} {text : String},
      line slot doc = .ok text → Text.IsMarked text)
    {slots : List Slot} (unbroken : ∀ slot ∈ slots, slot.IsUnbroken) {docs : List Value}
    {texts : List String} (returns : describeSlots line slots docs = .ok texts) :
    ∀ text ∈ texts, Text.IsMarked text := by
  intro text member
  obtain ⟨pair, among, made⟩ := (Outcome.mem_mapM_iff returns).1 member
  exact each (unbroken pair.1 (List.of_mem_zip among).1) made

/-- What begins with a tag, and goes on without a newline, is marked. -/
theorem isMarked_tag {tag : String} (isTag : Text.beginsWith tag Text.declarationMarker = true)
    {rest : String} (unbroken : Text.IsUnbroken (tag ++ rest)) : Text.IsMarked (tag ++ rest) :=
  Text.isMarked_of_isUnbroken unbroken (Text.beginsWith_append_right isTag rest)

/-- The line of an operator is marked. -/
theorem isMarked_operatorLine {operator : String × Value} (unbroken : IsOperatorUnbroken operator)
    {line : String} (returns : operatorLine operator.1 operator.2 = .ok line) :
    Text.IsMarked line := by
  obtain ⟨unbrokenName, unbrokenParam, unbrokenResult⟩ := unbroken
  simp only [operatorLine, Outcome.bind_eq_ok] at returns
  obtain ⟨param, hasParam, result, hasResult, written⟩ := returns
  have isParam := unbrokenParam param hasParam
  have isResult := unbrokenResult result hasResult
  have tagged (rest : String) (unbrokenRest : Text.IsUnbroken rest) :
      Text.IsMarked ("---@operator " ++ operator.1 ++ rest) := by
    refine Text.isMarked_of_isUnbroken ?_ ?_
    · simp only [Text.isUnbroken_append]
      exact ⟨⟨by decide, unbrokenName⟩, unbrokenRest⟩
    · rw [String.append_assoc]
      exact Text.beginsWith_append_right (by decide) _
  split at written
  · obtain rfl := Outcome.pure_eq_ok.1 written
    have whole := tagged ("(" ++ param.display ++ "): " ++ result.display) (by
      simp only [Text.isUnbroken_append]
      exact ⟨⟨⟨by decide, isParam⟩, by decide⟩, isResult⟩)
    simp only [← String.append_assoc] at whole
    exact whole
  · obtain rfl := Outcome.pure_eq_ok.1 written
    have whole := tagged (": " ++ result.display)
      (Text.isUnbroken_append.2 ⟨by decide, isResult⟩)
    rw [← String.append_assoc] at whole
    exact whole

/-! ## Declarations -/

section Declarations

variable {writer : StubWriter} {element : Value} {text : String}

/-- A declaration of a variable is marked lines and a line of code. -/
theorem exists_of_declareVariable (returns : declareVariable element = .ok text) :
    ∃ name comment, element.require "name" = .ok (.text name) ∧ Text.IsMarked comment ∧
      text = Text.join "\n" [comment, name ++ " = nil"] := by
  simp only [declareVariable, Outcome.bind_eq_ok, Outcome.pure_eq_ok, Value.asText_eq_ok] at returns
  obtain ⟨description, _, comment, isComment, _, named, name, rfl, rfl⟩ := returns
  refine ⟨name, comment, named, Text.isMarked_commentBlock isComment, ?_⟩
  simp only [Text.join, String.append_assoc]

/-- The comment and the tags of a function are marked. -/
theorem FunctionLayout.isMarked_annotations (layout : FunctionLayout writer element)
    (unbroken : IsUnbroken writer .function element) :
    ∀ text ∈ layout.annotations, Text.IsMarked text := by
  obtain ⟨_, unbrokenSlots⟩ := unbroken layout.name layout.named
  obtain ⟨unbrokenParameters, unbrokenResults, unbrokenPlaceholder⟩ :=
    Signature.isUnbroken_ofElement unbrokenSlots layout.isSignature
  simp only [annotations, List.forall_mem_append, List.forall_mem_singleton]
  refine ⟨⟨⟨?comment, ?placeholder⟩, ?parameters⟩, ?results⟩
  case comment => exact Text.isMarked_commentBlock layout.isComment
  case placeholder =>
    refine List.forall_mem_map.2 fun type member => isMarked_tag (by decide) ?_
    exact Text.isUnbroken_append.2
      ⟨by decide, unbrokenPlaceholder type (Option.mem_toList.1 member)⟩
  case parameters =>
    exact isMarked_describeSlots isMarked_parameterLine unbrokenParameters
      layout.describesParameters
  case results =>
    exact isMarked_describeSlots isMarked_resultLine unbrokenResults layout.describesResults

/-- The line of code of a function holds no newline. -/
theorem FunctionLayout.isUnbroken_code (layout : FunctionLayout writer element)
    (unbroken : IsUnbroken writer .function element) : Text.IsUnbroken layout.code := by
  obtain ⟨unbrokenName, unbrokenSlots⟩ := unbroken layout.name layout.named
  obtain ⟨unbrokenParameters, _⟩ := Signature.isUnbroken_ofElement unbrokenSlots layout.isSignature
  have names : ∀ name ∈ layout.signature.parameters.map Slot.name, Text.IsUnbroken name :=
    List.forall_mem_map.2 fun slot member => (unbrokenParameters slot member).1
  simp only [code, functionLine, Text.isUnbroken_append]
  exact ⟨⟨⟨⟨by decide, unbrokenName⟩, by decide⟩, Text.isUnbroken_join (by decide) names⟩,
    by decide⟩

end Declarations

end Lua

end ApiStubs
