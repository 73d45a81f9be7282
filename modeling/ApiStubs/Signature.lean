import ApiStubs.Naming

/-!
# Signatures

The signature of a documented function: its parameters and return values as slots with an identifier
and a spelled type. A type that repeats over both sides can give way to a placeholder, which the
declaration then has to introduce.
-/

namespace ApiStubs

open ApiStubs.Types

/-- A parameter or a return value that can be written down; the name of a return value may be
empty. -/
structure Slot where
  name : String
  isOptional : Bool
  type : Value
  deriving Repr, Inhabited

namespace Slot

/-- The name of the placeholder for a repeated type. -/
def placeholder : String := "T"

/-- The slot of a documented parameter or return value. -/
def ofDocumented (speller : Speller) (side : Side) (owner documented : Value) : Outcome Slot := do
  let (name, isOptional) ←
    Naming.identifier speller.dialect (← documented.require "name") side owner
  let documentedTypes := (← documented.get "types").orElse (.list [])
  let type ← speller.spell documentedTypes { owner, name := .text name, side, isOptional }
  return { name, isOptional, type }

/-- Whether a slot has a type. -/
def hasType (slot : Slot) (type : Value) : Bool :=
  slot.type.same type

/-- Put the placeholder in place of a type. -/
def generalize (type : Value) (slot : Slot) : Slot :=
  if slot.hasType type then { slot with type := .text placeholder } else slot

/-- Put the placeholder in place of a type that at least two slots have. The flag says whether it
did. -/
def generalizeAll (slots : List Slot) (type : Value) : List Slot × Bool :=
  match type with
  | .null => (slots, false)
  | _ =>
      if slots.countP (fun slot => slot.hasType type) < 2 then (slots, false)
      else (slots.map (generalize type), true)

end Slot

/-- The parameters and return values of a function, and the type that gave way to the
placeholder. -/
structure Signature where
  parameters : List Slot
  results : List Slot
  generalized? : Option Value := none
  deriving Repr, Inhabited

namespace Signature

/-- The documented members of a side of an element. -/
def documented (side : Side) (element : Value) : Outcome (List Value) := do
  ((← element.get side.key).orElse (.list [])).items

/-- The slots of a side of an element. -/
def readSide (speller : Speller) (side : Side) (owner element : Value) : Outcome (List Slot) := do
  (← documented side element).mapM (Slot.ofDocumented speller side owner)

/-- Put the placeholder in place of a type that repeats over both sides. -/
def generalize (parameters results : List Slot) (type : Value) : Signature :=
  let (slots, isGeneralized) := Slot.generalizeAll (parameters ++ results) type
  { parameters := slots.take parameters.length
    results := slots.drop parameters.length
    generalized? := if isGeneralized then some type else none }

/-- The signature of a documented function. -/
def ofElement (speller : Speller) (owner element : Value) : Outcome Signature := do
  let parameters ← readSide speller .argument owner element
  let results ← readSide speller .result owner element
  let type := (← owner.lookupIn speller.dialect.placeholders).getD .null
  return generalize parameters results type

end Signature

end ApiStubs
