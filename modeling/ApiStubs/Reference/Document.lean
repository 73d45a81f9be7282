import ApiStubs.Json.Reader
import ApiStubs.Value.Access

/-!
# Reference documents

A reference document describes one module: what it is, and the elements it declares. Reading one
fills in what is missing, so that a module always has a namespace, a brief, a description and a list
of elements, and an element always has a type, a name, a description, parameters and return values.
A document about another language, or without a namespace, describes no module.
-/

namespace ApiStubs.Reference

/-- The language whose documents describe modules. -/
def language : Value := .text "Lua"

/-- A parameter or return value with its defaults filled in. A single type counts as a list of
one. -/
def readParameter (raw : Value) : Outcome Value := do
  let types := (← raw.get "types").orElse (.list [])
  let listed := if types.text?.isSome then .list [types] else types
  return .record [
    ("name", ← raw.getOr "name" (.text "")),
    ("doc", ← raw.getOr "doc" (.text "")),
    ("types", .list (← listed.items))]

/-- The parameters or return values under a key of an element. -/
def readParameters (raw : Value) (key : String) : Outcome Value := do
  let members ← ((← raw.get key).orElse (.list [])).items
  return .list (← members.mapM readParameter)

/-- The keys that an element keeps as they are, when it has them. -/
def optionalKeys : List String := ["fields", "operators", "alias"]

/-- The fields of an element that are kept as they are. -/
def optionalFields (raw : Value) : Table Value :=
  optionalKeys.filterMap fun key => (raw.field? key).map fun value => (key, value)

/-- The description of an element: its own, else its brief, else nothing. -/
def describe (raw : Value) : Outcome Value := do
  let description ← raw.get "description"
  if description.isGiven then return description
  return (← raw.get "brief").orElse (.text "")

/-- An element with its defaults filled in. -/
def readElement (raw : Value) : Outcome Value := do
  let type ← raw.require "type"
  let name ← raw.require "name"
  let description ← describe raw
  let parameters ← readParameters raw "parameters"
  let returnValues ← readParameters raw "returnvalues"
  return .record ([("type", type), ("name", name), ("description", description),
    ("parameters", parameters), ("returnvalues", returnValues)] ++ optionalFields raw)

/-- The module that a document describes, if it describes one. -/
def moduleOf? (document : Value) : Outcome (Option Value) := do
  let info := (← document.get "info").orElse (.record [])
  if !(← info.getOr "language" language).same language then return none
  let space ← info.get "namespace"
  if !space.isGiven then return none
  let brief ← info.getOr "brief" (.text "")
  let description ← info.get "description"
  let rawElements ← ((← document.get "elements").orElse (.list [])).items
  let elements ← rawElements.mapM readElement
  return some (.record [("namespace", space), ("brief", brief), ("description", description),
    ("elements", .list elements)])

/-- The document that describes a module. -/
def documentOf (module : Value) : Outcome Value := do
  return .record [
    ("info", .record [("namespace", ← module.require "namespace"),
      ("brief", ← module.require "brief"), ("description", ← module.require "description")]),
    ("elements", ← module.require "elements")]

/-- The module that the text of a document describes, if it describes one. -/
def readDocument (text : String) : Outcome (Option Value) :=
  (Json.read text).bind moduleOf?

/-- The modules that texts of documents describe, up to the first text that cannot be read. -/
def readDocuments : List String → List Value × Option Fault
  | [] => ([], none)
  | text :: rest =>
      match readDocument text with
      | .error fault => ([], some fault)
      | .ok found =>
          let (modules, fault?) := readDocuments rest
          (found.toList ++ modules, fault?)

end ApiStubs.Reference
