import ApiStubs.Reference.Group
import ApiStubs.Teal.Declaration

/-!
# The Teal file

The Teal stubs are one file for all modules: nested records follow the groups of the elements. In a
group classes come first, then aliases, variables and functions, each kind in ascending order of
names, and after them the groups inside it. A group that has the name of a class of its parent is
put into the record of that class, since a record can be declared once.

The way through the groups is written for any kind of computation in which elements are declared,
so that the declarations made on it can be watched as well as made.
-/

namespace ApiStubs.Teal

open ApiStubs.Reference

/-- How an element of a kind is declared under its full name, at the outermost level or not. -/
abbrev Declare (m : Type → Type) :=
  Kind → Value → (fullName : String) → (isOutermost : Bool) → m (Option Declaration)

/-- The place of a kind in a group; elements that cannot be declared come first. -/
def kindRank : Option Kind → Nat
  | none => 0
  | some .classType => 1
  | some .aliasType => 2
  | some .variable => 3
  | some .function => 4

/-- An element with what its place in a group depends on. -/
structure Entry where
  kind? : Option Kind
  name : String
  element : Value
  deriving Inhabited

namespace Entry

/-- The entry of an element of a group. -/
def of (element : Value) : Outcome Entry := do
  let kind? ← Kind.of? element
  let name ← (← element.require "name").asText
  return { kind?, name, element }

/-- Whether an entry may stand before another: by kind, then by name. -/
def le (left right : Entry) : Bool :=
  kindRank left.kind? < kindRank right.kind? ||
    (kindRank left.kind? == kindRank right.kind? && decide (left.name ≤ right.name))

end Entry

/-- The entries of the elements of a group, in the order of the file. -/
def orderedEntries (elements : List Value) : Outcome (List Entry) := do
  return (← elements.mapM Entry.of).mergeSort Entry.le

/-- A group inside a record of its own. -/
def recordParts (name : String) (inside : List Part) : List Part :=
  [.line "", .line s!"record {name}", .block inside, .line "end"]

section Groups

variable {m : Type → Type} [Monad m]

/-- The parts of one element, together with the group that is put into it, if there is one. -/
def entryParts (declare : Declare m) (path : List String)
    (nested : Table (m (List Part))) (entry : Entry) :
    m (List Part × List String) := do
  match entry.kind? with
  | none => return ([], [])
  | some kind =>
      match ← declare kind entry.element (Group.dottedName path entry.name) path.isEmpty with
      | none => return ([], [])
      | some declaration =>
          match kind, nested.get? entry.name with
          | .classType, some inside => return (declaration.around [.block (← inside)], [entry.name])
          | _, _ => return (declaration.parts, [])

/-- The parts of the elements of a group and the names of the groups put into them. -/
def entriesParts (declare : Declare m) (path : List String)
    (nested : Table (m (List Part))) :
    List Entry → m (List Part × List String)
  | [] => return ([], [])
  | entry :: rest => do
      let (parts, hosted) ← entryParts declare path nested entry
      let (others, hostedLater) ← entriesParts declare path nested rest
      return (parts ++ others, hosted ++ hostedLater)

variable [MonadLiftT Outcome m]

/-- The parts of a group, given what the groups inside it become. -/
def levelParts (declare : Declare m) (path : List String) (elements : List Value)
    (nested : Table (m (List Part))) : m (List Part) := do
  let (parts, hosted) ← entriesParts declare path nested (← orderedEntries elements)
  let remaining := nested.sorted.filter fun group => !hosted.contains group.1
  let records ← remaining.mapM fun group => return recordParts group.1 (← group.2)
  return parts ++ records.flatten

mutual

/-- The parts of a group that a path leads to. -/
def groupParts (declare : Declare m) (path : List String) :
    Group → m (List Part)
  | .mk _ elements groups => levelParts declare path elements (groupsParts declare path groups)

/-- The parts of the groups inside the group that a path leads to. -/
def groupsParts (declare : Declare m) (path : List String) :
    List (String × Group) → Table (m (List Part))
  | [] => []
  | (key, group) :: rest =>
      (key, groupParts declare (path ++ [key]) group) :: groupsParts declare path rest

end

end Groups

/-- How a writer declares the elements of groups. -/
def declareWith (writer : StubWriter) : Declare Outcome :=
  fun kind element fullName isOutermost =>
    declare? writer kind element (.text fullName) isOutermost

/-- The parts of a group that a path leads to, as a writer declares it. -/
def renderGroup (writer : StubWriter) (path : List String) (group : Group) :
    Outcome (List Part) :=
  groupParts (declareWith writer) path group

/-- The comment at the top of the file. -/
def header (writer : StubWriter) (version : String) : List Part :=
  [.line "--[[", .line s!"  Generated with {writer.settings.generator}",
    .line s!"  Defold {version}", .line "--]]", .line ""]

/-- The lines of the file for several modules. -/
def renderLines (writer : StubWriter) (version : String) (modules : List Value) :
    Outcome (List String) := do
  let root ← Group.ofModules writer.settings.teal.selection modules
  let parts ← renderGroup writer [] root
  return Part.linesOf "" (header writer version) ++
    Part.linesOf "" (Part.expose parts)

end ApiStubs.Teal
