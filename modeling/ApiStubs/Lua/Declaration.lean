import ApiStubs.Reference.Kind
import ApiStubs.Reference.Selection
import ApiStubs.StubWriter
import ApiStubs.Text.Comment
import ApiStubs.Value.Order

/-!
# Declarations in Lua

Each declaration of a Lua stub is a text of comment lines, which the language server reads, and of
at most one line of code.
-/

namespace ApiStubs.Lua

open ApiStubs.Reference ApiStubs.Types

/-- A variable: its description, and an assignment that makes it known. -/
def declareVariable (element : Value) : Outcome String := do
  let comment ← Text.commentBlock (← element.get "description") Text.declarationMarker
  let name ← (← element.require "name").asText
  return comment ++ "\n" ++ name ++ " = nil"

/-- The line that describes a parameter. -/
def parameterLine (slot : Slot) (doc : Value) : Outcome String := do
  let description ← Text.commentTail doc Text.declarationMarker
  return Text.trimEnd s!"---@param {slot.name} {slot.type.display} {description}"

/-- The line that describes a return value; parts that are empty leave no gap. -/
def resultLine (slot : Slot) (doc : Value) : Outcome String := do
  let description ← Text.commentTail doc Text.declarationMarker
  let type ← slot.type.asText
  return "---@return " ++
    Text.join " " ([type, slot.name, description].filter fun part => part != "")

/-- The docs of the members of a side of an element. -/
def docs (side : Side) (element : Value) : Outcome (List Value) := do
  (← Signature.documented side element).mapM fun member => member.getOr "doc" (.text "")

/-- The lines that describe the slots of a side, each with its doc. -/
def describeSlots (line : Slot → Value → Outcome String) (slots : List Slot) (docs : List Value) :
    Outcome (List String) :=
  (slots.zip docs).mapM fun pair => line pair.1 pair.2

/-- The line of code that declares a function. -/
def functionLine (name : Value) (parameters : List Slot) : String :=
  "function " ++ name.display ++ "(" ++ Text.join ", " (parameters.map Slot.name) ++ ") end"

/-- A function: its description, its tags, and an empty definition; none for one that is not
declared. -/
def declareFunction? (writer : StubWriter) (element : Value) : Outcome (Option String) := do
  let name ← element.require "name"
  if name.memberOf writer.settings.lua.undeclared then return none
  let signature ← Signature.ofElement (writer.speller .lua) name element
  let comment ← Text.commentBlock (← element.get "description") Text.declarationMarker
  let placeholder := signature.generalized?.toList.map fun type =>
    s!"---@generic {Slot.placeholder}: {type.display}"
  let parameters ← describeSlots parameterLine signature.parameters (← docs .argument element)
  let results ← describeSlots resultLine signature.results (← docs .result element)
  return some (Text.join "\n" ([comment] ++ placeholder ++ parameters ++ results ++
    [functionLine name signature.parameters]))

/-- An alias. -/
def declareAlias (element : Value) : Outcome String := do
  let name ← element.require "name"
  let target ← element.require "alias"
  return s!"---@alias {name.display} {target.display}"

/-- The line that describes an operator of a class. -/
def operatorLine (name : String) (operator : Value) : Outcome String := do
  let param ← operator.get "param"
  let result ← operator.require "result"
  if param.isGiven then return s!"---@operator {name}({param.display}): {result.display}"
  return s!"---@operator {name}: {result.display}"

/-- The line that makes a global table known. -/
def tableLine (name : String) : String :=
  name ++ " = \x7b\x7d"

/-- A class: its fields and operators in ascending order, and its table when it is a global one. The
mark of a global table is not declared as a field. -/
def declareClass (element : Value) : Outcome String := do
  let name := (← element.require "name").display
  if !(← element.hasKey "fields") then throw (.classWithoutFields name)
  let isGlobal ← isGlobalTable element
  let fields ← (← element.require "fields").sortedFields
  let declared := fields.filter fun field => field.1 != globalMark
  let operators ← ((← element.get "operators").orElse (.record [])).sortedFields
  let operatorLines ← operators.mapM fun operator => operatorLine operator.1 operator.2
  return Text.join "\n" ([s!"---@class {name}"] ++ (if isGlobal then [tableLine name] else []) ++
    (declared.map fun field => s!"---@field {field.1} {field.2.display}") ++ operatorLines)

/-- The declaration of an element, if it is declared at all. -/
def declare? (writer : StubWriter) (kind : Kind) (element : Value) : Outcome (Option String) :=
  match kind with
  | .function => declareFunction? writer element
  | .variable => (declareVariable element).map some
  | .classType => (declareClass element).map some
  | .aliasType => (declareAlias element).map some

end ApiStubs.Lua
