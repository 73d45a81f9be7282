import ApiStubs.Proofs.Outcome
import ApiStubs.Teal.Declaration

/-!
# Signatures in Teal

The text of the line that declares a function in Teal, and the layout of the whole declaration.

- `IsArgument` and `IsResult` say what stands for a parameter and for a return value.
- `IsResults` says what stands behind the parentheses: nothing, one type, or several types inside
  parentheses of their own.
- `IsSignatureLine` puts them together to a line, and `isSignatureLine_code` says that every
  declared function ends with such a line.
-/

namespace ApiStubs.Teal

open ApiStubs.Reference

/-! ## Parameters and return values -/

/-- What stands for a parameter: its name and its type, with a question mark behind the name of an
optional parameter. Three dots, which stand for any number of arguments, have no question mark. -/
inductive IsArgument : Slot → String → Prop
  | required (name : String) (type : Value) :
      IsArgument ⟨name, false, type⟩ (name ++ ": " ++ type.display)
  | optional {name : String} (type : Value) (notVariadic : name ≠ "...") :
      IsArgument ⟨name, true, type⟩ (name ++ "?: " ++ type.display)
  | variadic (type : Value) : IsArgument ⟨"...", true, type⟩ ("...: " ++ type.display)

/-- What stands for a return value: its type, with three dots behind it when its name is three
dots. -/
inductive IsResult : Slot → String → Prop
  | one {name : String} (isOptional : Bool) (type : Value) (notVariadic : name ≠ "...") :
      IsResult ⟨name, isOptional, type⟩ type.display
  | variadic (isOptional : Bool) (type : Value) :
      IsResult ⟨"...", isOptional, type⟩ (type.display ++ "...")

/-- What stands behind the parentheses of a signature for its return values. -/
inductive IsResults : List Slot → String → Prop
  | none : IsResults [] ""
  | one {slot : Slot} {text : String} (isResult : IsResult slot text) :
      IsResults [slot] (": " ++ text)
  | several {slots : List Slot} {texts : List String} (several : 2 ≤ slots.length)
      (areResults : List.Forall₂ IsResult slots texts) :
      IsResults slots (": (" ++ Text.join ", " texts ++ ")")

/-- A parameter is written as what stands for it. -/
theorem isArgument_argumentText (slot : Slot) : IsArgument slot (argumentText slot) := by
  obtain ⟨name, isOptional, type⟩ := slot
  cases isOptional with
  | false =>
      have written : argumentText ⟨name, false, type⟩ = name ++ ": " ++ type.display := by
        simp [argumentText, toString]
      exact written ▸ .required name type
  | true =>
      by_cases isVariadic : name = "..."
      · subst isVariadic
        have written : argumentText ⟨"...", true, type⟩ = "...: " ++ type.display := by
          simp [argumentText, Naming.variadic, toString]
        exact written ▸ .variadic type
      · have written : argumentText ⟨name, true, type⟩ = name ++ "?: " ++ type.display := by
          simp [argumentText, Naming.variadic, isVariadic, toString, ← String.toList_inj]
        exact written ▸ .optional type isVariadic

/-- The type of a result is written as what stands for the result. -/
theorem isResult_resultType (slot : Slot) : IsResult slot (resultType slot).display := by
  obtain ⟨name, isOptional, type⟩ := slot
  by_cases isVariadic : name = "..."
  · subst isVariadic
    have written : (resultType ⟨"...", isOptional, type⟩).display = type.display ++ "..." := by
      rw [resultType, if_pos (show "..." = Naming.variadic from rfl), Value.display_text]
      simp [toString]
    exact written ▸ .variadic isOptional type
  · have written : resultType ⟨name, isOptional, type⟩ = type := if_neg isVariadic
    rw [written]
    exact .one isOptional type isVariadic

/-- The results of a signature are written as what stands for them. -/
theorem isResults_of_resultsText {slots : List Slot} {text : String}
    (returns : resultsText (slots.map resultType) = .ok text) : IsResults slots text := by
  rcases slots with _ | ⟨first, _ | ⟨second, rest⟩⟩
  · obtain rfl := Except.ok.inj returns
    exact .none
  · have written : ": " ++ (resultType first).display = text := by
      simpa [resultsText, toString] using returns
    exact written ▸ .one (isResult_resultType first)
  · simp only [List.map_cons, resultsText, Outcome.bind_eq_ok, Outcome.pure_eq_ok] at returns
    obtain ⟨texts, read, rfl⟩ := returns
    refine .several (by simp) ?_
    have shown : List.Forall₂ (fun slot text => (resultType slot).asText = .ok text)
        (first :: second :: rest) texts :=
      List.forall₂_map_left_iff.1 (Outcome.mapM_eq_ok.1 read)
    refine shown.imp fun slot text isText => ?_
    have isResult := isResult_resultType slot
    rwa [Value.asText_eq_ok.1 isText, Value.display_text] at isResult

/-! ## Functions -/

/-- The line that declares a function: under its own name at the outermost level and else as a
member, with the placeholder that its signature introduces, its parameters and its results. -/
def IsSignatureLine (name : String) (isOutermost : Bool) (signature : Signature) (line : String) :
    Prop :=
  ∃ arguments results, List.Forall₂ IsArgument signature.parameters arguments ∧
    IsResults signature.results results ∧
    line = (if isOutermost then "function " ++ name else name ++ ": function") ++
      (if signature.generalized?.isSome then "<T>" else "") ++
      "(" ++ Text.join ", " arguments ++ ")" ++ results

/-- What the declaration of a function is made of. -/
structure FunctionLayout (writer : StubWriter) (element fullName : Value) where
  name : Value
  signature : Signature
  description : Value
  comment : List Part
  results : String
  named : element.require "name" = .ok name
  isSignature : Signature.ofElement (writer.speller .teal) fullName element = .ok signature
  isDescription : element.get "description" = .ok description
  isComment : commentParts description = .ok comment
  areResults : resultsText (signature.results.map resultType) = .ok results

namespace FunctionLayout

variable {writer : StubWriter} {element fullName : Value}
  (layout : FunctionLayout writer element fullName)

/-- The name of a layout is that of the element. -/
theorem name_eq {name : Value} (named : element.require "name" = .ok name) : layout.name = name :=
  Except.ok.inj (layout.named.symm.trans named)

/-- The comment line that introduces the placeholder, if there is one. -/
def placeholder : List Part :=
  layout.signature.generalized?.toList.map fun type => .line ("-- T: " ++ type.display)

/-- The line of code. -/
def code (isOutermost : Bool) : String :=
  (if isOutermost then "function " ++ layout.name.display
    else layout.name.display ++ ": function") ++
      (if layout.signature.generalized?.isSome then "<T>" else "") ++
      "(" ++ Text.join ", " (layout.signature.parameters.map argumentText) ++ ")" ++ layout.results

/-- The parts of the declaration. -/
def parts (isOutermost : Bool) : List Part :=
  layout.comment ++ layout.placeholder ++ [.line (layout.code isOutermost)]

/-- The line of code is that of the signature. -/
theorem isSignatureLine_code (isOutermost : Bool) :
    IsSignatureLine layout.name.display isOutermost layout.signature (layout.code isOutermost) :=
  ⟨_, _, List.forall₂_map_right_iff.2
    (List.forall₂_same.2 fun slot _ => isArgument_argumentText slot),
    isResults_of_resultsText layout.areResults, rfl⟩

end FunctionLayout

/-- The declaration of a function has a layout. -/
theorem exists_functionLayout {writer : StubWriter} {element fullName : Value} {isOutermost : Bool}
    {parts : List Part}
    (returns : declareFunction? writer element fullName isOutermost = .ok (some parts)) :
    ∃ layout : FunctionLayout writer element fullName, parts = layout.parts isOutermost := by
  rw [declareFunction?] at returns
  split at returns
  · cases returns
  · simp only [Outcome.bind_eq_ok, Outcome.pure_eq_ok, Option.some.injEq] at returns
    obtain ⟨signature, isSignature, description, isDescription, comment, isComment, results,
      areResults, name, named, rfl⟩ := returns
    let layout : FunctionLayout writer element fullName := ⟨name, signature, description, comment,
      results, named, isSignature, isDescription, isComment, areResults⟩
    refine ⟨layout, ?_⟩
    cases isOutermost <;>
      simp [FunctionLayout.parts, FunctionLayout.code, FunctionLayout.placeholder, layout,
        Slot.placeholder, toString, ← String.toList_inj]

end ApiStubs.Teal
