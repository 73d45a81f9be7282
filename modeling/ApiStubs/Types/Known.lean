import ApiStubs.Settings
import ApiStubs.Text.Basic
import ApiStubs.Value.Access

/-!
# Known types

The types that may be written into a stub as they are: those of the settings, the classes and
aliases that the stubs declare, and the types of functions with a signature. The set is taken from
settings once; a later change of the settings does not reach it.
-/

namespace ApiStubs.Types

/-- A set of known types. -/
structure Known where
  members : List Value
  deriving Repr, Inhabited

namespace Known

/-- What the type of a function with a signature begins with. -/
def functionStart : String := "function("

/-- The known types of settings. -/
def ofSettings (settings : Settings) : Outcome Known := do
  let types ← settings.plainTypes.mapM Value.asScalar
  return ⟨types ++ settings.classes.keys.map .text ++ settings.aliases.keys.map .text⟩

/-- Whether a type is known. -/
def contains (known : Known) (type : String) : Bool :=
  (Value.text type).memberOf known.members || Text.beginsWith type functionStart

/-- Whether a value is a known type. -/
def containsValue (known : Known) (type : Value) : Outcome Bool := do
  if ← type.inSet known.members then return true
  return Text.beginsWith (← type.asText) functionStart

end Known

end ApiStubs.Types
