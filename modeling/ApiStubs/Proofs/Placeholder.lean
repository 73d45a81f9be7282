import ApiStubs.Proofs.FunctionAgreement
import ApiStubs.Proofs.Lua.Faults
import ApiStubs.Proofs.Lua.Tags
import ApiStubs.Proofs.Teal.Faults
import ApiStubs.Proofs.Types.Default
import ApiStubs.Proofs.Value.Display

/-!
# Placeholders

A type that repeats over the parameters and results of a function gives way to a placeholder, when
the dialect has an entry for the function. Both dialects write what is made of the signature as it
was read (`Signature.Binds`):

- the placeholder is introduced exactly when the entry is the type of two slots or more,
- it then stands where the type stood, on both sides, and nowhere otherwise, and
- putting the type back gives the signature as it was read (`Slot.restore`).
-/

namespace ApiStubs

open ApiStubs.Reference ApiStubs.Types ApiStubs.Value

namespace Slot

/-- Put a type back in place of the placeholder. -/
def restore (type : Value) (slot : Slot) : Slot :=
  if slot.hasType (.text placeholder) then { slot with type } else slot

/-- A slot as it is written when a type, if any, has given way to the placeholder: under its name
and flag, with the placeholder for that type, and otherwise as it was. -/
structure IsWrittenAs (bound? : Option Value) (slot written : Slot) : Prop where
  label : written.label = slot.label
  placeholder_iff : written.type = .text placeholder ↔
    ∃ type ∈ bound?, slot.hasType type = true
  otherwise : (∀ type ∈ bound?, slot.hasType type = false) → written = slot
  restored : ∀ type ∈ bound?,
    written.restore type = if slot.hasType type then { slot with type } else slot

/-- A slot whose type is another one does not have the placeholder. -/
theorem hasType_placeholder {slot : Slot} (fresh : slot.type ≠ .text placeholder) :
    slot.hasType (.text placeholder) = false :=
  Bool.eq_false_iff.2 fun same => fresh (eq_text_of_same same)

/-- A slot that has a text for a type has it exactly. -/
theorem type_eq_of_hasType {slot : Slot} {content : String}
    (has : slot.hasType (.text content) = true) : slot.type = .text content :=
  eq_text_of_same has

section Fresh

variable {slot : Slot} (fresh : slot.type ≠ .text placeholder)

include fresh

/-- Without a type that gives way, a slot is written as it is. -/
theorem isWrittenAs_none : IsWrittenAs none slot slot where
  label := rfl
  placeholder_iff := by simp [fresh]
  otherwise := fun _ => rfl
  restored := nofun

/-- A slot is written with the placeholder when its type gives way. -/
theorem isWrittenAs_generalize (type : Value) :
    IsWrittenAs (some type) slot (slot.generalize type) := by
  cases has : slot.hasType type with
  | true =>
      have written : slot.generalize type = { slot with type := .text placeholder } := if_pos has
      have isPlaceholder : (Value.text placeholder).same (.text placeholder) = true := by decide
      exact {
        label := label_generalize type slot
        placeholder_iff := by simp [written, has]
        otherwise := by simp [has]
        restored := by
          rintro _ ⟨⟩
          rw [written, has, if_pos rfl]
          exact if_pos isPlaceholder }
  | false =>
      have written : slot.generalize type = slot := if_neg (Bool.eq_false_iff.1 has)
      exact {
        label := label_generalize type slot
        placeholder_iff := by simp [written, has, fresh]
        otherwise := fun _ => written
        restored := by
          rintro _ ⟨⟩
          rw [written, has, restore, hasType_placeholder fresh] }

end Fresh

end Slot

namespace Signature

/-! ## Signatures with a placeholder -/

/-- What is written for a signature that was read, given the entry for the function, if any: the
type that gave way, and both sides slot by slot. A text that gave way can be put back. -/
structure Binds (listed : Option Value) (parameters results : List Slot) (signature : Signature) :
    Prop where
  bound_iff : ∀ type, signature.generalized? = some type ↔ listed = some type ∧ type ≠ .null ∧
    2 ≤ (parameters ++ results).countP fun slot => slot.hasType type
  writesParameters : List.Forall₂ (Slot.IsWrittenAs signature.generalized?) parameters
    signature.parameters
  writesResults : List.Forall₂ (Slot.IsWrittenAs signature.generalized?) results signature.results
  restored : ∀ content, signature.generalized? = some (.text content) →
    signature.parameters.map (Slot.restore (.text content)) = parameters ∧
      signature.results.map (Slot.restore (.text content)) = results

/-- A type that repeats gives way to the placeholder on both sides. -/
theorem generalize_of_repeated {type : Value} (given : type ≠ .null)
    {parameters results : List Slot}
    (repeats : 2 ≤ (parameters ++ results).countP fun slot => slot.hasType type) :
    generalize parameters results type = {
      parameters := parameters.map (Slot.generalize type)
      results := results.map (Slot.generalize type)
      generalized? := some type } := by
  have slots : Slot.generalizeAll (parameters ++ results) type =
      ((parameters ++ results).map (Slot.generalize type), true) := by
    rw [Slot.generalizeAll.eq_2 _ _ given, if_neg (Nat.not_lt.2 repeats)]
  have boundary : parameters.length = (parameters.map (Slot.generalize type)).length :=
    (List.length_map _).symm
  simp only [generalize, slots, List.map_append, if_true]
  rw [boundary, List.take_left, List.drop_left]

/-- Otherwise nothing gives way. -/
theorem generalize_of_not_repeated {type : Value} {parameters results : List Slot}
    (seldom : ¬(type ≠ .null ∧
      2 ≤ (parameters ++ results).countP fun slot => slot.hasType type)) :
    generalize parameters results type = { parameters, results } := by
  have slots : Slot.generalizeAll (parameters ++ results) type =
      (parameters ++ results, false) := by
    by_cases given : type = .null
    · rw [given]
      rfl
    · rw [Slot.generalizeAll.eq_2 _ _ given, if_pos]
      exact Nat.not_le.1 fun repeats => seldom ⟨given, repeats⟩
  simp only [generalize, slots, List.take_left, List.drop_left]
  rfl

/-- Slots are given back when a text is put back in place of the placeholder. -/
theorem map_restore {content : String} {slots written : List Slot}
    (each : List.Forall₂ (Slot.IsWrittenAs (some (.text content))) slots written) :
    written.map (Slot.restore (.text content)) = slots := by
  induction each with
  | nil => rfl
  | cons isWritten _ inductionHypothesis =>
      rename_i slot emitted _ _
      rw [List.map_cons, inductionHypothesis, isWritten.restored _ rfl]
      split
      · next has => rw [← Slot.type_eq_of_hasType has]
      · rfl

/-- What is written for a signature follows from the slots that were read and the entry. -/
theorem binds_generalize (listed : Option Value) {parameters results : List Slot}
    (fresh : ∀ slot ∈ parameters ++ results, slot.type ≠ .text Slot.placeholder) :
    (generalize parameters results (listed.getD .null)).Binds listed parameters results := by
  have asRead {slots : List Slot} (among : slots ⊆ parameters ++ results) :
      List.Forall₂ (Slot.IsWrittenAs none) slots slots :=
    List.forall₂_same.2 fun slot member => Slot.isWrittenAs_none (fresh slot (among member))
  have generalized {slots : List Slot} (among : slots ⊆ parameters ++ results) (type : Value) :
      List.Forall₂ (Slot.IsWrittenAs (some type)) slots (slots.map (Slot.generalize type)) :=
    List.forall₂_map_right_iff.2 (List.forall₂_same.2 fun slot member =>
      Slot.isWrittenAs_generalize (fresh slot (among member)) type)
  have left : parameters ⊆ parameters ++ results := List.subset_append_left ..
  have right : results ⊆ parameters ++ results := List.subset_append_right ..
  cases listed with
  | none =>
      have isGiven : generalize parameters results ((none : Option Value).getD .null) =
          { parameters, results } :=
        generalize_of_not_repeated fun repeats => repeats.1 rfl
      rw [isGiven]
      exact ⟨by simp, asRead left, asRead right, nofun⟩
  | some type =>
      rw [Option.getD_some]
      by_cases repeats : type ≠ .null ∧
          2 ≤ (parameters ++ results).countP fun slot => slot.hasType type
      · rw [generalize_of_repeated repeats.1 repeats.2]
        refine ⟨fun other => ?_, generalized left type, generalized right type, ?_⟩
        · constructor
          · rintro ⟨⟩
            exact ⟨rfl, repeats⟩
          · exact fun isEntry => isEntry.1
        · rintro content ⟨⟩
          exact ⟨map_restore (generalized left _), map_restore (generalized right _)⟩
      · rw [generalize_of_not_repeated repeats]
        refine ⟨fun other => ?_, asRead left, asRead right, nofun⟩
        constructor
        · nofun
        · rintro ⟨⟨⟩, repeatsToo⟩
          exact absurd repeatsToo repeats

/-- The signature of a function, with the slots of both sides as they are read and the entry for the
function, and with what is made of these when none of them has the name of the placeholder for a
type. -/
def IsMadeFor (signature : Signature) (speller : Speller) (owner element : Value) : Prop :=
  ∃ listed parameters results,
    owner.lookupIn speller.dialect.placeholders = .ok listed ∧
    readSide speller .argument owner element = .ok parameters ∧
    readSide speller .result owner element = .ok results ∧
    ((∀ slot ∈ parameters ++ results, slot.type ≠ .text Slot.placeholder) →
      signature.Binds listed parameters results)

/-- Every signature is made so. -/
theorem isMadeFor_of_ofElement {speller : Speller} {owner element : Value} {signature : Signature}
    (returns : ofElement speller owner element = .ok signature) :
    signature.IsMadeFor speller owner element := by
  simp only [ofElement, Outcome.bind_eq_ok, Outcome.pure_eq_ok] at returns
  obtain ⟨parameters, readParameters, results, readResults, listed, found, rfl⟩ := returns
  exact ⟨listed, parameters, results, found, readParameters, readResults, binds_generalize listed⟩

end Signature

/-! ## Functions in Teal -/

namespace Teal

/-- A documented function that is not left out is declared. -/
theorem exists_parts {writer : StubWriter} (shaped : writer.settings.teal.IsShaped)
    (fills : writer.settings.teal.FillsArrays) {element : Value}
    (documented : IsDocumentedElement element) {fullName : String}
    (isDeclared : ¬(Value.text fullName).memberOf writer.settings.teal.undeclared = true)
    (isOutermost : Bool) :
    ∃ parts, declareFunction? writer element (.text fullName) isOutermost = .ok (some parts) := by
  obtain ⟨parts?, made⟩ := exists_declareFunction? shaped fills documented fullName isOutermost
  cases parts? with
  | some parts => exact ⟨parts, made⟩
  | none => exact absurd (declareFunction?_eq_none_iff.1 made) isDeclared

end Teal

/-! ## Functions in Lua -/

namespace Lua

/-- As many slots as there are docs have a line each, in order. -/
theorem forall₂_of_describeSlots {line : Slot → Value → Outcome String} {slots : List Slot}
    {docs : List Value} {lines : List String} (many : slots.length = docs.length)
    (describes : describeSlots line slots docs = .ok lines) :
    List.Forall₂ (fun slot text => ∃ doc, line slot doc = .ok text) slots lines := by
  have paired : slots = (slots.zip docs).map Prod.fst :=
    (List.map_fst_zip many.le).symm
  rw [paired, List.forall₂_map_left_iff]
  exact (Outcome.mapM_eq_ok.1 describes).imp fun pair _ describesOne => ⟨pair.2, describesOne⟩

/-- The tag of a parameter: its name, its type and its doc, without the blanks at the end. -/
def IsParameterTag (slot : Slot) (tag : String) : Prop :=
  ∃ doc description, Text.commentTail doc "---" = .ok description ∧
    tag = Text.trimEnd
      ("---@param " ++ slot.name ++ " " ++ slot.type.display ++ " " ++ description)

/-- The tag of a return value: its type, its name and its doc, those of them that are not empty. -/
def IsResultTag (slot : Slot) (tag : String) : Prop :=
  ∃ doc description type, Text.commentTail doc "---" = .ok description ∧ slot.type = .text type ∧
    tag = "---@return " ++
      Text.join " " ([type, slot.name, description].filter fun part => part != "")

/-- The line that describes a parameter is its tag. -/
theorem isParameterTag_of_parameterLine {slot : Slot} {doc : Value} {line : String}
    (describes : parameterLine slot doc = .ok line) : IsParameterTag slot line :=
  ⟨doc, exists_of_parameterLine describes⟩

/-- The line that describes a return value is its tag. -/
theorem isResultTag_of_resultLine {slot : Slot} {doc : Value} {line : String}
    (describes : resultLine slot doc = .ok line) : IsResultTag slot line := by
  simp only [resultLine, Outcome.bind_eq_ok, Outcome.pure_eq_ok, Value.asText_eq_ok] at describes
  obtain ⟨description, isTail, type, isType, rfl⟩ := describes
  exact ⟨doc, description, type, isTail, isType, rfl⟩

/-- The tags of a function are those of the slots of its signature. -/
theorem FunctionLayout.tagsSlots {writer : StubWriter} {element : Value}
    (layout : FunctionLayout writer element) :
    List.Forall₂ IsParameterTag layout.signature.parameters layout.parameters ∧
      List.Forall₂ IsResultTag layout.signature.results layout.results := by
  obtain ⟨manyParameters, manyResults⟩ := layout.length_docs
  exact ⟨(forall₂_of_describeSlots manyParameters layout.describesParameters).imp
      fun _ _ ⟨_, describes⟩ => isParameterTag_of_parameterLine describes,
    (forall₂_of_describeSlots manyResults layout.describesResults).imp
      fun _ _ ⟨_, describes⟩ => isResultTag_of_resultLine describes⟩

/-- A documented function that is not left out is declared. -/
theorem exists_text {writer : StubWriter} (shaped : writer.settings.lua.IsShaped)
    (fills : writer.settings.lua.FillsArrays) {element : Value}
    (documented : IsDocumentedElement element) {name : String}
    (named : element.field? "name" = some (.text name))
    (isDeclared : ¬(Value.text name).memberOf writer.settings.lua.undeclared = true) :
    ∃ text, declareFunction? writer element = .ok (some text) := by
  obtain ⟨text?, made⟩ := exists_declareFunction? shaped fills documented
  cases text? with
  | some text => exact ⟨text, made⟩
  | none => exact absurd ((declareFunction?_eq_none_iff named).1 made) isDeclared

end Lua

/-! ## Both dialects -/

/-- What both dialects declare for a function has a layout whose signature is made of the slots that
are read. The declaration introduces the placeholder once, exactly when a type gave way to it, and
its lines hold the slots of the signature in order; so the placeholder is introduced exactly when
the entry for the function is the type of two slots or more, and it stands exactly where that type
stood. A documented function that is not left out is declared. -/
theorem placeholder_stands_for_repeated_type (writer : StubWriter) (element : Value) :
    (∀ text, Lua.declareFunction? writer element = .ok (some text) →
      ∃ layout : Lua.FunctionLayout writer element,
        text = Text.join "\n" ([layout.comment] ++
          (layout.signature.generalized?.toList.map fun type =>
            "---@generic T: " ++ type.display) ++
          layout.parameters ++ layout.results ++
          ["function " ++ layout.name.display ++ "(" ++
            Text.join ", " (layout.signature.parameters.map Slot.name) ++ ") end"]) ∧
        List.Forall₂ Lua.IsParameterTag layout.signature.parameters layout.parameters ∧
        List.Forall₂ Lua.IsResultTag layout.signature.results layout.results ∧
        layout.signature.IsMadeFor (writer.speller .lua) layout.name element) ∧
    (∀ fullName isOutermost parts,
      Teal.declareFunction? writer element fullName isOutermost = .ok (some parts) →
        ∃ layout : Teal.FunctionLayout writer element fullName, ∃ line,
          parts = layout.comment ++
            (layout.signature.generalized?.toList.map fun type =>
              .line ("-- T: " ++ type.display)) ++ [.line line] ∧
          Teal.IsSignatureLine layout.name.display isOutermost layout.signature line ∧
          layout.signature.IsMadeFor (writer.speller .teal) fullName element) ∧
    (IsDocumentedElement element →
      (writer.settings.lua.IsShaped → writer.settings.lua.FillsArrays → ∀ name,
        element.field? "name" = some (.text name) →
          ¬(Value.text name).memberOf writer.settings.lua.undeclared = true →
            ∃ text, Lua.declareFunction? writer element = .ok (some text)) ∧
      (writer.settings.teal.IsShaped → writer.settings.teal.FillsArrays → ∀ fullName isOutermost,
        ¬(Value.text fullName).memberOf writer.settings.teal.undeclared = true →
          ∃ parts, Teal.declareFunction? writer element (.text fullName) isOutermost =
            .ok (some parts))) := by
  refine ⟨fun text returns => ?_, fun fullName isOutermost parts returns => ?_,
    fun documented => ⟨?_, ?_⟩⟩
  · obtain ⟨layout, isText⟩ := Lua.exists_functionLayout returns
    obtain ⟨parameters, results⟩ := layout.tagsSlots
    exact ⟨layout, isText, parameters, results,
      Signature.isMadeFor_of_ofElement layout.isSignature⟩
  · obtain ⟨layout, areParts⟩ := Teal.exists_functionLayout returns
    exact ⟨layout, layout.code isOutermost, areParts, layout.isSignatureLine_code isOutermost,
      Signature.isMadeFor_of_ofElement layout.isSignature⟩
  · exact fun shaped fills name named isDeclared =>
      Lua.exists_text shaped fills documented named isDeclared
  · exact fun shaped fills fullName isOutermost isDeclared =>
      Teal.exists_parts shaped fills documented isDeclared isOutermost

/-- Two parameters and the result of a function have the type of its entry by default, and give way
to the placeholder in the line that Teal declares it with. -/
theorem placeholder_of_lerp :
    let writer := Settings.defaultWriter
    let member (name : String) (types : List String) : Value :=
      .record [("name", .text name), ("types", .ofTexts types)]
    let element : Value := .record [("type", .text "FUNCTION"), ("name", .text "lerp"),
      ("parameters", .list [member "t" ["number"], member "v1" ["vector4", "vector3"],
        member "v2" ["vector3|vector4"]]),
      ("returnvalues", .list [member "v" ["vector3", "vector4"]])]
    ∃ parts, ∃ layout : Teal.FunctionLayout writer element (.text "vmath.lerp"),
      Teal.declareFunction? writer element (.text "vmath.lerp") false = .ok (some parts) ∧
      (∃ listed parameters results, layout.signature.Binds listed parameters results) ∧
      layout.signature.generalized?.map Value.display = some "any" ∧
      layout.signature.parameters.map (fun slot => slot.type.display) = ["number", "T", "T"] ∧
      layout.signature.results.map (fun slot => slot.type.display) = ["T"] ∧
      Teal.Part.linesOf "" parts =
        ["-- T: any", "lerp: function<T>(t: number, v1: T, v2: T): T"] := by
  intro writer member element
  have written : (Teal.declareFunction? writer element (.text "vmath.lerp") false).toOption.join.map
      (Teal.Part.linesOf "") =
        some ["-- T: any", "lerp: function<T>(t: number, v1: T, v2: T): T"] := by
    decide +kernel
  obtain ⟨parts, areParts, areLines⟩ := Option.map_eq_some_iff.1 written
  have returns := Outcome.toOption_join_eq_some.1 areParts
  obtain ⟨layout, _, _, _, listed, parameters, results, _, readParameters, readResults, binds⟩ :=
    (placeholder_stands_for_repeated_type writer element).2.1 _ _ parts returns
  have readsDisplays : (do
      let parameters ←
        Signature.readSide (writer.speller .teal) .argument (.text "vmath.lerp") element
      let results ← Signature.readSide (writer.speller .teal) .result (.text "vmath.lerp") element
      return (parameters ++ results).map fun slot => slot.type.display : Outcome _).toOption =
        some ["number", "any", "any", "any"] := by
    decide +kernel
  have displays : (Signature.ofElement (writer.speller .teal) (.text "vmath.lerp")
      element).toOption.map (fun signature => (signature.generalized?.map Value.display,
        signature.parameters.map fun slot => slot.type.display,
        signature.results.map fun slot => slot.type.display)) =
      some (some "any", ["number", "T", "T"], ["T"]) := by
    decide +kernel
  rw [readParameters, readResults] at readsDisplays
  rw [layout.isSignature] at displays
  have areDisplayed : (parameters ++ results).map (fun slot => slot.type.display) =
      ["number", "any", "any", "any"] := Option.some.inj readsDisplays
  have areWritten := Option.some.inj displays
  simp only [Prod.mk.injEq] at areWritten
  obtain ⟨isGeneralized, areParameters, areResults⟩ := areWritten
  refine ⟨parts, layout, returns, ⟨_, _, _, binds fun slot member isPlaceholder => ?_⟩,
    isGeneralized, areParameters, areResults, areLines⟩
  have among := List.mem_map_of_mem (f := fun slot : Slot => slot.type.display) member
  rw [areDisplayed] at among
  simp [isPlaceholder, Slot.placeholder] at among

end ApiStubs
