import ApiStubs.Settings
import ApiStubs.Text.Basic
import ApiStubs.Value.Access

/-!
# Selecting elements

A dialect cannot declare every element of a module. Its selection says which elements are left out;
every other part of a module, and every element that stays, is left as it is. A rule that bars
nothing does not look at the elements.
-/

namespace ApiStubs

namespace Reference

/-- The field that marks a class as a global table. -/
def globalMark : String := "is_global"

/-- Whether an element is a class that exists as a global table. -/
def isGlobalTable (element : Value) : Outcome Bool := do
  match ← element.get "fields" with
  | .null => return false
  | fields =>
      match ← fields.get globalMark with
      | .bool true => return true
      | _ => return false

/-- The members that do not meet a condition, in order. -/
def rejecting (condition : Value → Outcome Bool) : List Value → Outcome (List Value)
  | [] => .ok []
  | element :: rest => do
      let isMet ← condition element
      let kept ← rejecting condition rest
      return if isMet then kept else element :: kept

/-- A module without the elements that meet a condition. -/
def withoutElements (condition : Value → Outcome Bool) (module : Value) : Outcome Value := do
  let elements ← (← module.require "elements").items
  return module.withField "elements" (.list (← rejecting condition elements))

/-- Whether a text begins with one of several others. -/
def beginsWithAny (text : String) : List Value → Outcome Bool
  | [] => .ok false
  | start :: rest => do
      if Text.beginsWith text (← start.asText) then return true
      beginsWithAny text rest

/-- Apply a change to a module when a condition holds. -/
def changeWhen (condition : Bool) (change : Value → Outcome Value) (module : Value) :
    Outcome Value :=
  if condition then change module else .ok module

end Reference

namespace Selection

open ApiStubs.Reference

/-- Whether a selection declares the elements of a namespace. -/
def admits (selection : Selection) (space : Value) : Outcome Bool :=
  match selection.namespaces with
  | none => .ok true
  | some namespaces => space.inSet namespaces

/-- Whether an element's name begins with a barred start. -/
def hasBarredStart (selection : Selection) (element : Value) : Outcome Bool := do
  beginsWithAny (← (← element.require "name").asText) selection.barredStarts

/-- Whether an element's name is one of several. -/
def isNamedIn (names : List Value) (element : Value) : Outcome Bool := do
  (← element.require "name").inSet names

/-- A module with the elements that a selection declares. -/
def select (selection : Selection) (module : Value) : Outcome Value := do
  let space ← module.require "namespace"
  if !(← selection.admits space) then return module.withField "elements" (.list [])
  let afterStarts ← changeWhen (!selection.barredStarts.isEmpty)
    (withoutElements selection.hasBarredStart) module
  let afterTables ←
    changeWhen selection.omitsGlobalTables (withoutElements isGlobalTable) afterStarts
  let barred := (← space.lookupIn selection.barredNames).getD []
  changeWhen (!barred.isEmpty) (withoutElements (isNamedIn barred)) afterTables

/-- Several modules with the elements that a selection declares. -/
def selectAll (selection : Selection) (modules : List Value) : Outcome (List Value) :=
  modules.mapM selection.select

end Selection

end ApiStubs
