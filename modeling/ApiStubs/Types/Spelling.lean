import ApiStubs.Types.Brackets
import ApiStubs.Types.Known
import ApiStubs.Types.Union

/-!
# The spelling of types

How the documented types of a parameter, a return value or a field become one type of a dialect.
Every alternative of the documented union is spelled on its own: an override of the element that it
belongs to wins, then a substitution, and a type that is not known gives way where the dialect
insists on known ones. The results are a set; it is fused, widened and written in ascending order.
-/

namespace ApiStubs.Types

/-- The two sides of a signature. -/
inductive Side where
  | argument
  | result
  deriving DecidableEq, Repr, Inhabited

namespace Side

/-- The word for a side in the keys of overrides and renamings. -/
def word : Side → String
  | .argument => "param"
  | .result => "return"

/-- The key of an element under which the members of a side are documented. -/
def key : Side → String
  | .argument => "parameters"
  | .result => "returnvalues"

end Side

/-- Where a type stands: the element it belongs to, the name of what has the type, the side, and
whether it can be left out. -/
structure Site where
  owner : Value := .text ""
  name : Value := .text ""
  side : Side := .argument
  isOptional : Bool := false

/-- What types are spelled with: the tables of a dialect and the known types. -/
structure Speller where
  dialect : Dialect
  known : Known

end ApiStubs.Types

namespace ApiStubs.Dialect

open ApiStubs.Types

/-- The spelling of a function type: without parameters it is `function`, and with a signature it
begins with the dialect's own word. -/
def spellFunction (dialect : Dialect) (type : String) : String :=
  let bare := if type = "function()" then "function" else type
  if Text.beginsWith bare Known.functionStart then
    dialect.callableWord ++ Text.dropFirst "function".length bare
  else bare

/-- The key of an override: the side, the documented type and the name. -/
def overrideKey (raw : Value) (site : Site) : String :=
  s!"{site.side.word}_{raw.display}_{site.name.display}"

/-- The override that the owner's table holds for a documented type, null when there is none. -/
def overrideOf (dialect : Dialect) (raw : Value) (site : Site) : Outcome Value := do
  match ← site.owner.lookupIn dialect.overrides with
  | some table => return (table.get? (overrideKey raw site)).getD .null
  | none => return .null

/-- The spelling of an array whose members have a type that stays. -/
def spellKept (dialect : Dialect) (base : String) (depth : Nat) : Outcome Value :=
  arrayOf dialect.arrayPattern (.text (dialect.spellFunction base)) depth

/-- Put `any` in place of the opaque types when there are several of them. -/
def fuseOpaque (dialect : Dialect) (types : List String) : List String :=
  let present := dialect.opaqueTypes.filter types.contains
  if 1 < present.length then
    let others := types.filter fun type => !present.contains type
    if others.contains "any" then others else others ++ ["any"]
  else types

/-- Add the alternative that an optional type gains. -/
def widen (dialect : Dialect) (isOptional : Bool) (types : List String) : List String :=
  match dialect.nilAlternative with
  | some absent => if isOptional && !types.contains absent then types ++ [absent] else types
  | none => types

end ApiStubs.Dialect

namespace ApiStubs.Types

/-- The members of a list, each at its first occurrence. -/
def distinct : List String → List String
  | [] => []
  | first :: rest => first :: (distinct rest).filter (· != first)

/-- The members of a set in ascending order. -/
def ascending (types : List String) : List String :=
  types.mergeSort fun left right => decide (left ≤ right)

namespace Speller

/-- The spelling of an alternative of a substitution inside arrays of some dimensions; an unknown
one gives way where the dialect insists on known ones. -/
def spellSubstitute (speller : Speller) (outerDepth : Nat) (type : String) : Outcome Value :=
  let (base, depth) := splitBrackets type
  if speller.dialect.insistsOnKnown && !speller.known.contains base then
    arrayOf speller.dialect.arrayPattern speller.dialect.fallbackType (outerDepth + depth)
  else speller.dialect.spellKept base (outerDepth + depth)

/-- The spellings of one documented alternative, in order. -/
def spellAlternative (speller : Speller) (raw : Value) (site : Site) : Outcome (List Value) := do
  match ← speller.dialect.overrideOf raw site with
  | .null =>
      let (base, depth) := splitBrackets (← raw.asText)
      let substitute := (speller.dialect.substitutions.get? base).getD (.text base)
      (← alternatives substitute).mapM (speller.spellSubstitute depth)
  | override =>
      (← alternatives override).mapM fun type =>
        let (base, depth) := splitBrackets type
        speller.dialect.spellKept base depth

/-- The set of the spellings of all alternatives of a documented type, in order of their first
occurrence. -/
def spellings (speller : Speller) (documentedTypes : Value) (site : Site) :
    Outcome (List String) := do
  let pieces ← alternatives documentedTypes
  let spelled ← pieces.mapM fun raw => speller.spellAlternative (.text raw) site
  return distinct (← spelled.flatten.mapM Value.asText)

/-- The types that are joined for a documented type: its spellings, fused and widened, in ascending
order. -/
def joined (speller : Speller) (documentedTypes : Value) (site : Site) : Outcome (List String) := do
  let fused := speller.dialect.fuseOpaque (← speller.spellings documentedTypes site)
  return ascending (speller.dialect.widen site.isOptional fused)

/-- The type that the dialect writes for a documented type, the fallback when nothing is left of
it. -/
def spell (speller : Speller) (documentedTypes : Value) (site : Site) : Outcome Value := do
  let union := Text.join "|" (← speller.joined documentedTypes site)
  return if union = "" then speller.dialect.fallbackType else .text union

end Speller

end ApiStubs.Types
