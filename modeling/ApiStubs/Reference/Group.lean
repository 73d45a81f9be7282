import ApiStubs.Reference.Selection

/-!
# Groups of elements

The dots of an element's name lead through nested groups: all segments but the last one name groups,
and the last one is the name of the element inside the innermost. Groups are made when the first
element needs them and keep that order.
-/

namespace ApiStubs.Reference

/-- A level of the declarations: its own elements and the groups inside it. -/
inductive Group where
  | mk (name : String) (elements : List Value) (groups : List (String × Group))
  deriving Inhabited

namespace Group

/-- The name of a group; that of the outermost one is empty. -/
def name : Group → String
  | .mk name _ _ => name

/-- The elements of a group itself. -/
def elements : Group → List Value
  | .mk _ elements _ => elements

/-- The groups directly inside a group. -/
def groups : Group → Table Group
  | .mk _ _ groups => groups

/-- A group with nothing in it. -/
def empty (name : String) : Group :=
  .mk name [] []

/-- The outermost group with nothing in it. -/
def outermost : Group :=
  empty ""

/-- What holds of a group when it holds of the groups inside it holds of every group. -/
@[elab_as_elim] theorem induction {motive : Group → Prop}
    (level : ∀ name elements groups, (∀ entry ∈ groups, motive entry.2) →
      motive (.mk name elements groups)) : ∀ group, motive group
  | .mk name elements groups => level name elements groups fun entry _ => induction level entry.2
termination_by group => sizeOf group
decreasing_by
  have smaller : sizeOf entry < sizeOf groups := List.sizeOf_lt_of_mem ‹entry ∈ groups›
  have inside : sizeOf entry.2 < sizeOf entry := by
    cases entry
    simp only [Prod.mk.sizeOf_spec]
    omega
  simp only [Group.mk.sizeOf_spec]
  omega

/-- Put an element into the group that a path leads to, making the groups that are missing. -/
def insertAt : List String → Value → Group → Group
  | [], element, .mk name elements groups => .mk name (elements ++ [element]) groups
  | key :: path, element, .mk name elements groups =>
      .mk name elements (Table.modify groups key (empty key) (insertAt path element))

/-- The group that a path leads to, or the first key on the way that leads nowhere. -/
def follow (group : Group) : List String → Outcome Group
  | [] => .ok group
  | key :: path =>
      match group.groups.get? key with
      | some inside => inside.follow path
      | none => .error (.missingKey (.text key))

/-- A path leads on from the group under its first key. -/
theorem follow_cons_eq_ok {group inside : Group} {key : String} {path : List String} :
    group.follow (key :: path) = .ok inside ↔
      ∃ next, group.groups.get? key = some next ∧ next.follow path = .ok inside := by
  rw [follow]
  cases group.groups.get? key with
  | none => simp
  | some next => simp

/-- The segments of a dotted name. -/
def segments (name : String) : List String :=
  Text.split '.' name

/-- The dotted name of something inside the groups of a path. -/
def dottedName (path : List String) (name : String) : String :=
  Text.join "." (path ++ [name])

/-- Put an element into the group that its dotted name leads to, under the last segment of it. -/
def place (group : Group) (element : Value) : Outcome Group := do
  let parts := segments (← (← element.require "name").asText)
  let last := parts.getLastD ""
  return insertAt parts.dropLast (element.withField "name" (.text last)) group

/-- Put the elements of a module into the groups that their names lead to. -/
def placeAll (group : Group) (module : Value) : Outcome Group := do
  (← (← module.require "elements").items).foldlM place group

/-- The groups of the elements that a selection declares of several modules. -/
def ofModules (selection : Selection) (modules : List Value) : Outcome Group := do
  (← selection.selectAll modules).foldlM placeAll outermost

/-! ## Dotted names -/

/-- A name has at least one segment. -/
theorem segments_ne_nil (name : String) : segments name ≠ [] := by
  simpa [segments, Text.split] using Text.splitChars_ne_nil '.' name.toList

/-- No segment of a name holds a dot. -/
theorem dotless_of_mem_segments {name segment : String} (member : segment ∈ segments name) :
    '.' ∉ segment.toList := by
  obtain ⟨piece, among, rfl⟩ := List.mem_map.1 member
  rw [String.toList_ofList]
  exact Text.not_mem_of_mem_splitChars among

/-- The last of the segments of a name. -/
theorem getLastD_segments (name : String) :
    (segments name).getLastD "" = (segments name).getLast (segments_ne_nil name) := by
  rw [List.getLastD_eq_getLast?, List.getLast?_eq_some_getLast (segments_ne_nil name)]
  rfl

/-- The last segment of a name holds no dot. -/
theorem dotless_getLastD_segments (name : String) :
    '.' ∉ ((segments name).getLastD "").toList := by
  rw [getLastD_segments]
  exact dotless_of_mem_segments (List.getLast_mem _)

/-- A name is dotted from its own segments. -/
theorem dottedName_segments (name : String) :
    dottedName (segments name).dropLast ((segments name).getLastD "") = name := by
  rw [dottedName, getLastD_segments, List.dropLast_concat_getLast]
  exact Text.join_split '.' name

/-- The segments of a dotted name are the keys and the last segment, when none holds a dot. -/
theorem segments_dottedName {path : List String} {last : String}
    (dotless : ∀ key ∈ path ++ [last], '.' ∉ key.toList) :
    segments (dottedName path last) = path ++ [last] :=
  Text.split_join (by simp) dotless

end Group

end ApiStubs.Reference
