import ApiStubs.Lua.Declaration
import ApiStubs.Proofs.Outcome

/-!
# What Lua declarations are made of

The makers of declarations read an element step by step and join the lines that they find. A layout
holds what a maker found, together with where it found it, so that statements about the lines of a
declaration need not follow these steps.

- `exists_functionLayout` and `exists_classLayout` say that every declaration has a layout.
-/

namespace ApiStubs.Lua

open ApiStubs.Reference ApiStubs.Types

/-- What the declaration of a function is made of. -/
structure FunctionLayout (writer : StubWriter) (element : Value) where
  name : Value
  signature : Signature
  description : Value
  parameterDocs : List Value
  resultDocs : List Value
  comment : String
  parameters : List String
  results : List String
  named : element.require "name" = .ok name
  isSignature : Signature.ofElement (writer.speller .lua) name element = .ok signature
  isDescription : element.get "description" = .ok description
  areParameterDocs : docs .argument element = .ok parameterDocs
  areResultDocs : docs .result element = .ok resultDocs
  isComment : Text.commentBlock description Text.declarationMarker = .ok comment
  describesParameters :
    describeSlots parameterLine signature.parameters parameterDocs = .ok parameters
  describesResults : describeSlots resultLine signature.results resultDocs = .ok results

namespace FunctionLayout

variable {writer : StubWriter} {element : Value} (layout : FunctionLayout writer element)

/-- The name of a layout is that of the element. -/
theorem name_eq {name : Value} (named : element.require "name" = .ok name) : layout.name = name :=
  Except.ok.inj (layout.named.symm.trans named)

/-- The line that introduces the placeholder, if there is one. -/
def placeholder : List String :=
  layout.signature.generalized?.toList.map fun type =>
    "---@generic " ++ Slot.placeholder ++ ": " ++ type.display

/-- The comment and the tags. -/
def annotations : List String :=
  [layout.comment] ++ layout.placeholder ++ layout.parameters ++ layout.results

/-- The line of code. -/
def code : String :=
  functionLine layout.name layout.signature.parameters

/-- The text of the declaration. -/
def text : String :=
  Text.join "\n" (layout.annotations ++ [layout.code])

end FunctionLayout

/-- The declaration of a function has a layout. -/
theorem exists_functionLayout {writer : StubWriter} {element : Value} {text : String}
    (returns : declareFunction? writer element = .ok (some text)) :
    ∃ layout : FunctionLayout writer element, text = layout.text := by
  simp only [declareFunction?, Outcome.bind_eq_ok] at returns
  obtain ⟨name, named, returns⟩ := returns
  split at returns
  · cases returns
  · simp only [Outcome.bind_eq_ok, Outcome.pure_eq_ok, Option.some.injEq] at returns
    obtain ⟨signature, isSignature, description, isDescription, comment, isComment, parameterDocs,
      areParameterDocs, parameters, describesParameters, resultDocs, areResultDocs, results,
      describesResults, rfl⟩ := returns
    exact ⟨⟨name, signature, description, parameterDocs, resultDocs, comment, parameters, results,
      named, isSignature, isDescription, areParameterDocs, areResultDocs, isComment,
      describesParameters, describesResults⟩, rfl⟩

/-- A function is left out exactly when its name is among those never declared. -/
theorem declareFunction?_eq_none_iff {writer : StubWriter} {element : Value} {name : String}
    (named : element.field? "name" = some (.text name)) :
    declareFunction? writer element = .ok none ↔
      (Value.text name).memberOf writer.settings.lua.undeclared = true := by
  constructor
  · intro returns
    rw [declareFunction?, Value.require_eq_ok.2 named, Outcome.ok_bind] at returns
    split at returns
    · assumption
    · simp only [Outcome.bind_eq_ok, Outcome.pure_eq_ok, reduceCtorEq, and_false,
        exists_false] at returns
  · intro isMember
    rw [declareFunction?, Value.require_eq_ok.2 named, Outcome.ok_bind, if_pos isMember]
    rfl

/-- The line of a field of a class. -/
def fieldLine (field : String × Value) : String :=
  "---@field " ++ field.1 ++ " " ++ field.2.display

/-- What the declaration of a class is made of. -/
structure ClassLayout (element : Value) where
  name : Value
  isGlobal : Bool
  fields : Table Value
  operators : Table Value
  operatorLines : List String
  named : element.require "name" = .ok name
  decides : isGlobalTable element = .ok isGlobal
  areFields : element.require "fields" >>= Value.sortedFields = .ok fields
  areOperators : (element.get "operators" >>= fun operators =>
    (operators.orElse (.record [])).sortedFields) = .ok operators
  areOperatorLines :
    (operators.mapM fun operator => operatorLine operator.1 operator.2) = .ok operatorLines

namespace ClassLayout

variable {element : Value} (layout : ClassLayout element)

/-- The line that opens the class. -/
def opening : String :=
  "---@class " ++ layout.name.display

/-- The line of the table of a global class. -/
def table : List String :=
  if layout.isGlobal then [tableLine layout.name.display] else []

/-- The fields that are declared. -/
def declared : Table Value :=
  layout.fields.filter fun field => field.1 != globalMark

/-- The text of the declaration. -/
def text : String :=
  Text.join "\n" ([layout.opening] ++ layout.table ++ layout.declared.map fieldLine ++
    layout.operatorLines)

end ClassLayout

/-- The declaration of a class has a layout. -/
theorem exists_classLayout {element : Value} {text : String}
    (returns : declareClass element = .ok text) :
    ∃ layout : ClassLayout element, text = layout.text := by
  simp only [declareClass, Outcome.bind_eq_ok] at returns
  obtain ⟨name, named, hasFields, _, returns⟩ := returns
  split at returns
  · cases returns
  · simp only [Outcome.bind_eq_ok, Outcome.pure_eq_ok] at returns
    obtain ⟨isGlobal, decides, raw, hasRaw, fields, areFields, given, areGiven, operators,
      areOperators, operatorLines, areOperatorLines, rfl⟩ := returns
    exact ⟨⟨name, isGlobal, fields, operators, operatorLines, named, decides,
      Outcome.bind_eq_ok.2 ⟨raw, hasRaw, areFields⟩,
      Outcome.bind_eq_ok.2 ⟨given, areGiven, areOperators⟩, areOperatorLines⟩, rfl⟩

end ApiStubs.Lua
