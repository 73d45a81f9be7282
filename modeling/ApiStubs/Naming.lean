import ApiStubs.Types.Spelling

/-!
# Names

How a documented name becomes an identifier. Brackets around a name say that a parameter is
optional, and three dots at its end that it stands for any number of arguments. A name that cannot
stand in the language has another one in the tables of the dialect.
-/

namespace ApiStubs.Naming

open ApiStubs.Types

/-- The name of a parameter that stands for any number of arguments. -/
def variadic : String := "..."

/-- The characters between a pair of enclosing brackets. -/
def unbracket? : List Char → Option (List Char)
  | '[' :: rest => if rest.getLast? = some ']' then some rest.dropLast else none
  | _ => none

/-- A documented name without the brackets of an optional parameter, and whether it had them. -/
def splitOptional (name : String) : String × Bool :=
  match unbracket? name.toList with
  | some inside => (String.ofList inside, true)
  | none => (name, false)

/-- The name itself, or three dots for one that ends with them. -/
def shortenVariadic (name : String) : String :=
  if Text.endsWith name variadic then variadic else name

/-- What stands for a name: the renaming for its owner, else the general one, else the name
itself. -/
def substitute (dialect : Dialect) (name : String) (side : Side) (owner : Value) :
    Outcome Value := do
  let table := (← owner.lookupIn dialect.localRenamings).getD []
  match (table.get? s!"{side.word}_{name}").getD .null with
  | .null => return (dialect.renamings.get? name).getD (.text name)
  | found => return found

/-- The identifier for a documented name, and whether the parameter is optional. -/
def identifier (dialect : Dialect) (documented : Value) (side : Side) (owner : Value) :
    Outcome (String × Bool) := do
  match documented with
  | .text name =>
      let (inside, isOptional) := splitOptional name
      let chosen ← substitute dialect (shortenVariadic inside) side owner
      return (Text.replaceChar '-' '_' (← chosen.asText), isOptional)
  | .record (_ :: _ :: _) => .error (.missingKey (.integer 0))
  | _ => .error .wrongShape

end ApiStubs.Naming
