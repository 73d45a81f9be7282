import ApiStubs.Reference.Kind
import ApiStubs.StubWriter
import ApiStubs.Teal.Part
import ApiStubs.Text.Comment
import ApiStubs.Value.Order

/-!
# Declarations in Teal

Each declaration of the Teal file is made of comment lines and of the declaration itself. A class is
a record, which other declarations can be put into before its end.
-/

namespace ApiStubs.Teal

open ApiStubs.Reference

/-- The parts of a declaration. What belongs inside it stands between the opening and the
closing. -/
structure Declaration where
  opening : List Part
  closing : List Part := []
  deriving Repr, Inhabited

namespace Declaration

/-- The parts with something put inside the declaration. -/
def around (declaration : Declaration) (inside : List Part) : List Part :=
  declaration.opening ++ inside ++ declaration.closing

/-- The parts with nothing put inside the declaration. -/
def parts (declaration : Declaration) : List Part :=
  declaration.around []

end Declaration

/-- The comment lines of a description. -/
def commentParts (description : Value) : Outcome (List Part) := do
  return (← Text.lineComments description).map .line

/-- The type that the dialect writes for a documented type of a field, operator or alias. -/
def spellFor (writer : StubWriter) (documentedType owner name : Value) : Outcome Value :=
  (writer.speller .teal).spell documentedType { owner, name }

/-- A variable: its comment, and its name with the unknown type. -/
def declareVariable (writer : StubWriter) (element : Value) : Outcome (List Part) := do
  let comment ← commentParts (← element.get "description")
  let name ← element.require "name"
  return comment ++ [.line s!"{name.display}: {writer.settings.teal.fallbackType.display}"]

/-- A parameter inside the parentheses of a signature. An optional one carries a question mark,
unless it is variadic. -/
def argumentText (slot : Slot) : String :=
  let mark := if slot.isOptional && slot.name != Naming.variadic then "?" else ""
  s!"{slot.name}{mark}: {slot.type.display}"

/-- A return value behind a signature: its type alone, with three dots behind it when it is
variadic. -/
def resultType (slot : Slot) : Value :=
  if slot.name = Naming.variadic then .text s!"{slot.type.display}..." else slot.type

/-- The results behind a signature: none, one type, or several in parentheses. -/
def resultsText : List Value → Outcome String
  | [] => .ok ""
  | [result] => .ok s!": {result.display}"
  | results => do
      let texts ← results.mapM Value.asText
      return ": (" ++ Text.join ", " texts ++ ")"

/-- A function: its comment, and its name with a signature; none for one that is not
declared. -/
def declareFunction? (writer : StubWriter) (element fullName : Value) (isOutermost : Bool) :
    Outcome (Option (List Part)) := do
  if fullName.memberOf writer.settings.teal.undeclared then return none
  let signature ← Signature.ofElement (writer.speller .teal) fullName element
  let comment ← commentParts (← element.get "description")
  let remark := signature.generalized?.toList.map fun type =>
    Part.line s!"-- {Slot.placeholder}: {type.display}"
  let binder := if signature.generalized?.isSome then s!"<{Slot.placeholder}>" else ""
  let arguments := Text.join ", " (signature.parameters.map argumentText)
  let results ← resultsText (signature.results.map resultType)
  let name := (← element.require "name").display
  let shape := s!"{binder}({arguments}){results}"
  let line := if isOutermost then s!"function {name}{shape}" else s!"{name}: function{shape}"
  return some (comment ++ remark ++ [.line line])

/-- What an alias stands for when it is a userdata type of its own. -/
def userdataTarget : Value := .text "userdata"

/-- An alias: a type, or a record when it stands for userdata. -/
def declareAlias (writer : StubWriter) (element fullName : Value) : Outcome (List Part) := do
  let name ← element.require "name"
  let target ← element.require "alias"
  if target.same userdataTarget then return [.line s!"record {name.display} is userdata end"]
  let type ← spellFor writer target fullName name
  return [.line s!"type {name.display} = {type.display}"]

/-- A field of a class: the lines of its comment, and its name with its type. A field that is no
text is not declared. -/
def fieldParts (writer : StubWriter) (fullName : Value) (name : String) (raw : Value) :
    Outcome (List Part) := do
  match raw with
  | .text text =>
      let (documentedType, comment) := Text.splitField text
      let commented ← commentParts (.text comment)
      let type ← spellFor writer (.text documentedType) fullName (.text name)
      return commented ++ [.line s!"{name}: {type.display}"]
  | _ => return []

/-- An operator of a class. -/
def operatorParts (writer : StubWriter) (className fullName : Value) (name : String)
    (operator : Value) : Outcome (List Part) := do
  let param ← operator.get "param"
  let others ←
    if param.isGiven then do pure [← spellFor writer param fullName (.text name)]
    else pure []
  let result ← spellFor writer (← operator.require "result") fullName (.text name)
  let arguments := Text.join ", " (← (className :: others).mapM Value.asText)
  return [.line s!"metamethod __{name}: function({arguments}): {result.display}"]

/-- A class: its fields and operators in ascending order inside a record. -/
def declareClass (writer : StubWriter) (element fullName : Value) : Outcome Declaration := do
  let name ← element.require "name"
  if !(← element.hasKey "fields") then throw (.classWithoutFields fullName.display)
  let fields ← (← element.require "fields").sortedFields
  let fieldLines ← fields.mapM fun field => fieldParts writer fullName field.1 field.2
  let operators ← ((← element.get "operators").orElse (.record [])).sortedFields
  let operatorLines ← operators.mapM fun operator =>
    operatorParts writer name fullName operator.1 operator.2
  return {
    opening := [.line "", .line s!"record {name.display} is userdata", .block fieldLines.flatten,
      .block operatorLines.flatten]
    closing := [.line "end"] }

/-- The declaration of an element under its full name, if it is declared at all. -/
def declare? (writer : StubWriter) (kind : Kind) (element fullName : Value) (isOutermost : Bool) :
    Outcome (Option Declaration) := do
  match kind with
  | .function =>
      return (← declareFunction? writer element fullName isOutermost).map fun opening => { opening }
  | .variable => return some { opening := ← declareVariable writer element }
  | .classType => return some (← declareClass writer element fullName)
  | .aliasType => return some { opening := ← declareAlias writer element fullName }

end ApiStubs.Teal
