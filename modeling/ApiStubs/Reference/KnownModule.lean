import ApiStubs.Settings
import ApiStubs.Value.Entries

/-!
# The module of the known types

The classes and aliases of the settings are declared by a module of their own, which is made
here in the shape that a reference document would give it.
-/

namespace ApiStubs.Reference

/-- The namespace of the module that declares the known types. -/
def knownNamespace : String := "meta"

/-- What the module that declares the known types is about. -/
def knownBrief : String := "Known types and aliases used in the Defold API"

/-- The element that declares a known class. -/
def knownClass (name : String) (declaration : Value) : Outcome Value := do
  let fields ← (← declaration.getOr "fields" (.record [])).toTable
  let operators ←
    match declaration.field? "operators" with
    | some operators => do pure [("operators", Value.record (← operators.toTable))]
    | none => pure []
  return .record ([("type", .text "BASIC_CLASS"), ("name", .text name), ("description", .text ""),
    ("fields", .record fields)] ++ operators)

/-- The element that declares a known alias. -/
def knownAlias (name : String) (target : Value) : Value :=
  .record [("type", .text "BASIC_ALIAS"), ("name", .text name), ("description", .text ""),
    ("alias", target)]

/-- The module that declares the classes and aliases of settings. -/
def knownModule (settings : Settings) : Outcome Value := do
  let classes ← settings.classes.sorted.mapM fun entry => knownClass entry.1 entry.2
  let aliases := settings.aliases.sorted.map fun entry => knownAlias entry.1 entry.2
  return .record [("namespace", .text knownNamespace), ("brief", .text knownBrief),
    ("description", .null), ("elements", .list (classes ++ aliases))]

end ApiStubs.Reference
