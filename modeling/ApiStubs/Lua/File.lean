import ApiStubs.Lua.Declaration

/-!
# Lua files

A Lua stub is one file for a module: a header, the diagnostics that it disables, and the
declarations. Variables come first, then functions, classes and aliases, each kind in ascending
order of names. When an element's name begins with the namespace, the declarations are wrapped into
a table of that name.
-/

namespace ApiStubs.Lua

open ApiStubs.Reference

/-- The comment at the top of a file. The description is left out when the title says it already. -/
def header (writer : StubWriter) (version : String) (title description : Value) :
    Outcome String := do
  let titleText ← Text.plain title
  let more ←
    if description.isGiven && !description.same title then do
      let block ← Text.commentBlock description "  "
      pure ("\n" ++ block ++ "\n")
    else pure ""
  return "--[[\n" ++ s!"  Generated with {writer.settings.generator}\n" ++
    s!"  Defold {version}\n\n" ++ s!"  {titleText}\n" ++ more ++ "--]]"

/-- The lines that disable diagnostics. -/
def diagnosticLines (writer : StubWriter) : String :=
  Text.join "\n" ("---@meta" :: writer.settings.diagnostics.map fun diagnostic =>
    s!"---@diagnostic disable: {diagnostic.display}")

/-- Declarations wrapped into the table of a namespace. -/
def wrapNamespace (name body : String) : String :=
  s!"---@class defold_api.{name}\n" ++ tableLine name ++ "\n\n" ++ body ++ "\n\n" ++
    s!"return {name}"

/-- The place of a kind in a file. -/
def kindRank : Kind → Nat
  | .variable => 0
  | .function => 1
  | .classType => 2
  | .aliasType => 3

/-- An element with what its place in a file depends on. -/
structure Entry where
  kind : Kind
  name : Value
  element : Value

namespace Entry

/-- Whether an entry may stand before another: by kind, then by name. -/
def le (left right : Entry) : Bool :=
  kindRank left.kind < kindRank right.kind ||
    (left.kind == right.kind && left.name.le right.name)

/-- The entry of an element, if it can be declared. -/
def of? (element : Value) : Outcome (Option (Kind × Value)) := do
  return (← Kind.of? element).map fun kind => (kind, element)

/-- Entries in the order of a file; entries that are equal keep their order. -/
def sort (entries : List Entry) : Outcome (List Entry) :=
  if Value.areComparable (entries.map Entry.name) then .ok (entries.mergeSort le)
  else .error .wrongShape

end Entry

/-- Whether an element's name begins with the namespace. -/
def belongsTo (space element : Value) : Outcome Bool := do
  let name ← (← element.require "name").asText
  return Text.beginsWith name (← space.asText)

/-- Whether some element's name begins with the namespace; those after it are not looked at. -/
def needsNamespace (space : Value) : List Value → Outcome Bool
  | [] => .ok false
  | element :: rest => do
      if ← belongsTo space element then return true
      needsNamespace space rest

/-- The declarable elements in the order of a file. -/
def orderedEntries (declarable : List (Kind × Value)) : Outcome (List Entry) := do
  let entries ← declarable.mapM fun pair => do
    return { kind := pair.1, name := ← pair.2.require "name", element := pair.2 : Entry }
  Entry.sort entries

/-- Declarations one after the other: an alias is followed by the next line, any other declaration
by an empty line. -/
def joinDeclarations : List (Kind × String) → String
  | [] => ""
  | [(_, last)] => last
  | (kind, text) :: second :: rest =>
      text ++ (if kind = .aliasType then "\n" else "\n\n") ++ joinDeclarations (second :: rest)

/-- The declarations of entries, without those that are not declared. -/
def declarations (writer : StubWriter) : List Entry → Outcome (List (Kind × String))
  | [] => .ok []
  | entry :: rest => do
      let text? ← declare? writer entry.kind entry.element
      let others ← declarations writer rest
      return (text?.toList.map fun text => (entry.kind, text)) ++ others

/-- The file of a module, none when nothing in it can be declared. -/
def moduleText? (writer : StubWriter) (version : String) (module : Value) :
    Outcome (Option String) := do
  let space ← module.require "namespace"
  let selected ← writer.settings.lua.selection.select module
  let elements ← (← selected.require "elements").items
  let declarable ← elements.mapM Entry.of?
  let isWrapped ← needsNamespace space elements
  let entries ← orderedEntries declarable.reduceOption
  let declared ← declarations writer entries
  if declared.isEmpty then return none
  let top ← header writer version (← selected.require "brief") (← selected.get "description")
  let body := joinDeclarations declared
  let wrapped := if isWrapped then wrapNamespace space.display body else body
  return some (top ++ "\n\n" ++ diagnosticLines writer ++ "\n\n" ++ wrapped ++ "\n")

/-- What is printed when a module has no file. -/
def skipNotice (space : Value) : String :=
  s!"[-] The module \"{space.display}\" is skipped because there are no known elements"

end ApiStubs.Lua
