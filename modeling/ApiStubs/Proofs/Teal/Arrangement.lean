import ApiStubs.Proofs.Table
import ApiStubs.Proofs.Teal.Layout
import ApiStubs.Proofs.Teal.Traversal
import ApiStubs.Settings.Default

/-!
# The arrangement of a group

Every part of a group has one place in the file. The elements of the group come first, ordered by
kind and name. A group inside it stands either in the record of the class of its name, directly
before the end of that record, or in a record of its own behind all elements.

- `perm_placements` says that on the way through the groups every declarable element is declared
  once, under its name behind the keys of its group.
- `isArranged_of_levelParts` says where the parts of one group stand, and that every group inside it
  has one place.
- `parts_placed_once` puts both together for a group and all groups below it.

No two classes of a group may have the same name: the second one would take the group of that name
into its record once more.
-/

namespace ApiStubs

open ApiStubs.Reference

namespace Reference.Group

mutual

/-- The elements of the group that a path leads to and of the groups below it, each with its
path. -/
def placements (path : List String) : Group → List (List String × Value)
  | .mk _ elements groups =>
      elements.map (fun element => (path, element)) ++ placementsInside path groups

/-- The elements of the groups inside the group that a path leads to, each with its path. -/
def placementsInside (path : List String) : List (String × Group) → List (List String × Value)
  | [] => []
  | (key, group) :: rest => group.placements (path ++ [key]) ++ placementsInside path rest

end

/-- Below a group lie the elements of the groups inside it, each group behind its own key. -/
theorem placementsInside_eq_flatMap (path : List String) (groups : Table Group) :
    placementsInside path groups =
      groups.flatMap fun entry => entry.2.placements (path ++ [entry.1]) := by
  induction groups with
  | nil => rfl
  | cons entry rest inductionHypothesis =>
      rw [placementsInside, inductionHypothesis, List.flatMap_cons]

end Reference.Group

namespace Teal

/-! ## Entries in order -/

/-- The entry of an element holds its kind, its name and the element itself. -/
theorem Entry.of_eq_ok {element : Value} {entry : Entry} :
    Entry.of element = .ok entry ↔ Kind.of? element = .ok entry.kind? ∧
      element.field? "name" = some (.text entry.name) ∧ entry.element = element := by
  simp only [Entry.of, Outcome.bind_eq_ok, Outcome.pure_eq_ok, Value.require_eq_ok,
    Value.asText_eq_ok]
  constructor
  · rintro ⟨kind?, ofKind, _, found, name, rfl, rfl⟩
    exact ⟨ofKind, found, rfl⟩
  · rintro ⟨ofKind, found, rfl⟩
    exact ⟨_, ofKind, _, found, _, rfl, rfl⟩

/-- Each kind has a place of its own. -/
theorem kindRank_injective : Function.Injective kindRank := by
  rintro (_ | _ | _) (_ | _ | _) <;> simp [kindRank]

/-- An entry stands before another when its kind comes first, or the kind is the same and its name
does not come later. -/
def Entry.Precedes (first second : Entry) : Prop :=
  kindRank first.kind? < kindRank second.kind? ∨
    first.kind? = second.kind? ∧ first.name ≤ second.name

/-- An entry may stand before another exactly when it precedes it. -/
theorem Entry.le_iff {first second : Entry} : first.le second = true ↔ first.Precedes second := by
  simp [Entry.le, Entry.Precedes, kindRank_injective.eq_iff]

/-- What precedes an entry precedes whatever that entry precedes. -/
theorem Entry.Precedes.trans {first second third : Entry} (precedes : first.Precedes second)
    (precedesNext : second.Precedes third) : first.Precedes third := by
  rcases precedes with before | ⟨same, le⟩ <;>
    rcases precedesNext with beforeNext | ⟨sameNext, leNext⟩
  · exact .inl (Nat.lt_trans before beforeNext)
  · exact .inl (sameNext ▸ before)
  · exact .inl (same ▸ beforeNext)
  · exact .inr ⟨same.trans sameNext, String.le_trans le leNext⟩

/-- Of two entries one precedes the other. -/
theorem Entry.precedes_total (first second : Entry) :
    first.Precedes second ∨ second.Precedes first := by
  rcases Nat.lt_trichotomy (kindRank first.kind?) (kindRank second.kind?) with
    before | same | after
  · exact .inl (.inl before)
  · have sameKind := kindRank_injective same
    exact (String.le_total first.name second.name).imp (fun le => .inr ⟨sameKind, le⟩)
      fun le => .inr ⟨sameKind.symm, le⟩
  · exact .inr (.inl after)

/-- The entries of a group precede each other in the order in which they stand. -/
theorem pairwise_orderedEntries {elements : List Value} {entries : List Entry}
    (returns : orderedEntries elements = .ok entries) : entries.Pairwise Entry.Precedes := by
  obtain ⟨unordered, _, rfl⟩ := orderedEntries_eq_ok.1 returns
  refine (List.pairwise_mergeSort (fun first second third le leNext => ?_) (fun first second => ?_)
    unordered).imp Entry.le_iff.1
  · rw [Entry.le_iff] at le leNext ⊢
    exact le.trans leNext
  · rw [Bool.or_eq_true, Entry.le_iff, Entry.le_iff]
    exact Entry.precedes_total first second

/-- What is read off the entries of elements is read off the elements. -/
theorem filterMap_entries {β : Type} {elements : List Value} {entries : List Entry}
    (areEntries : elements.mapM Entry.of = .ok entries) (read : Entry → Option β) :
    entries.filterMap read =
      elements.filterMap fun element => (Entry.of element).toOption.bind read := by
  have matched := Outcome.mapM_eq_ok.1 areEntries
  clear areEntries
  induction matched with
  | nil => rfl
  | cons first _ inductionHypothesis =>
      simp only [List.filterMap_cons, first, Except.toOption, Option.bind_some,
        inductionHypothesis]

/-- What is read off the entries of a group, in their order, is read off its elements. -/
theorem filterMap_orderedEntries {β : Type} {elements : List Value} {entries : List Entry}
    (returns : orderedEntries elements = .ok entries) (read : Entry → Option β) :
    (entries.filterMap read).Perm
      (elements.filterMap fun element => (Entry.of element).toOption.bind read) := by
  obtain ⟨unordered, areEntries, rfl⟩ := orderedEntries_eq_ok.1 returns
  rw [← filterMap_entries areEntries]
  exact (List.mergeSort_perm ..).filterMap read

/-! ## Each declaration once -/

/-- The names of the classes among elements. -/
def classNames (elements : List Value) : List String :=
  elements.filterMap fun element => (Entry.of element).toOption.bind Entry.className?

/-- A group in which, as in every group below it, no key stands for two groups and no name for two
classes. -/
inductive IsUnambiguous : Group → Prop
  | mk {name : String} {elements : List Value} {groups : Table Group}
      (keys : groups.keys.Nodup) (classes : (classNames elements).Nodup)
      (inside : ∀ entry ∈ groups, IsUnambiguous entry.2) :
      IsUnambiguous (.mk name elements groups)

/-- The declaration asked for an element in the group of a path, if it can be declared. -/
def callAt (placement : List String × Value) : Option Call :=
  (Entry.of placement.2).toOption.bind (callOf placement.1)

/-- Distinct hosted groups and the others are all groups inside a group, each of them once. -/
theorem visitedKeys_perm {α : Type} {groups : Table α} {hosted : List String}
    (distinct : groups.keys.Nodup) (areKeys : hosted ⊆ groups.keys) (once : hosted.Nodup) :
    (visitedKeys groups hosted).Perm groups.keys := by
  have sorted : (groups.sorted.map Prod.fst).Nodup :=
    ((List.mergeSort_perm groups _).map Prod.fst).nodup_iff.2 distinct
  have nodup : (visitedKeys groups hosted).Nodup := by
    refine List.nodup_append.2 ⟨once, sorted.sublist (List.filter_sublist.map _), ?_⟩
    rintro key isHosted other remains rfl
    obtain ⟨group, member, rfl⟩ := List.mem_map.1 remains
    have notHosted := (List.mem_filter.1 member).2
    simp [isHosted] at notHosted
  exact (List.perm_ext_iff_of_nodup nodup distinct).2 fun key => mem_visitedKeys areKeys

/-- What is asked for in visits is what is expected of each of them, in some order. -/
theorem flatten_visits_perm {expected : String → List Call} {keys : List String}
    {visits : List (List Call)}
    (visited : List.Forall₂ (fun key calls => calls.Perm (expected key)) keys visits) :
    visits.flatten.Perm (keys.flatMap expected) := by
  induction visited with
  | nil => exact .refl _
  | cons asked _ inductionHypothesis =>
      rw [List.flatten_cons, List.flatMap_cons]
      exact asked.append inductionHypothesis

/-- On the way through unambiguous groups the declaration of every declarable element is asked for,
once for each time that it stands in its group. -/
theorem perm_placements (declare : Declare Outcome) {group : Group}
    (unambiguous : IsUnambiguous group) (path : List String) :
    Watches declare (groupParts (watch declare) path group) (groupParts declare path group)
      fun _ calls => calls.Perm ((group.placements path).filterMap callAt) := by
  induction group using Group.induction generalizing path with
  | level name elements groups inductionHypothesis =>
      obtain ⟨distinct, distinctClasses, unambiguousInside⟩ := unambiguous
      let expected (key : String) : List Call :=
        ((Table.get? groups key).map fun group =>
          (group.placements (path ++ [key])).filterMap callAt).getD []
      let visited (key : String) (calls : List Call) : Prop := calls.Perm (expected key)
      have each : ∀ entry ∈ groups,
          Watches declare (groupParts (watch declare) (path ++ [entry.1]) entry.2)
            (groupParts declare (path ++ [entry.1]) entry.2) fun _ calls =>
              visited entry.1 calls := by
        intro entry member
        have found := Table.get?_of_mem distinct member
        refine (inductionHypothesis entry member (unambiguousInside entry member)
          (path ++ [entry.1])).mono fun _ calls asked => ?_
        simpa [visited, expected, found] using asked
      rw [groupParts, groupParts, groupsParts_eq_mapEntries, groupsParts_eq_mapEntries]
      refine (watches_levelParts declare path each elements).mono fun _ calls level => ?_
      obtain ⟨entries, hosted, visits, ordered, areKeys, ofClasses, visitedAll, asked⟩ := level
      have once : hosted.Nodup :=
        ((filterMap_orderedEntries ordered _).nodup_iff.2 distinctClasses).sublist ofClasses
      have own : (entries.filterMap (callOf path)).Perm
          ((elements.map fun element => (path, element)).filterMap callAt) := by
        rw [List.filterMap_map]
        exact filterMap_orderedEntries ordered (callOf path)
      have inside : visits.flatten.Perm
          ((Group.placementsInside path groups).filterMap callAt) := by
        rw [Group.placementsInside_eq_flatMap, List.filterMap_flatMap]
        refine (flatten_visits_perm visitedAll).trans ?_
        refine ((visitedKeys_perm distinct areKeys once).flatMap_right expected).trans ?_
        rw [Table.keys, List.flatMap_map]
        refine .of_eq (List.flatMap_congr fun entry member => ?_)
        simp only [expected, Table.get?_of_mem distinct member, Option.map_some, Option.getD_some]
      rw [Group.placements, List.filterMap_append]
      exact asked.trans (own.append inside)

/-! ## Each part in its place -/

/-- The declaration of a class with its fields and operators. -/
def classDeclaration (name : String) (fields operators : List Part) : Declaration where
  opening := [.line "", .line ("record " ++ name ++ " is userdata"), .block fields,
    .block operators]
  closing := [.line "end"]

/-- What an entry in the group of a path becomes, when `keys` are those of the groups inside the
group and `inside` tells what these become: nothing when it cannot be declared or is a function left
out; else its declaration, with the group of its name inside when it is a class. -/
inductive IsBlockOf (writer : StubWriter) (path keys : List String) (inside : String → List Part) :
    Entry → List Part → Prop
  | undeclarable (name : String) (element : Value) :
      IsBlockOf writer path keys inside ⟨none, name, element⟩ []
  | leftOut {name : String} {element : Value}
      (declared : declareWith writer .function element (Group.dottedName path name) path.isEmpty =
        .ok none) :
      IsBlockOf writer path keys inside ⟨some .function, name, element⟩ []
  | plain {kind : Kind} {name : String} {element : Value} {declaration : Declaration}
      (declared : declareWith writer kind element (Group.dottedName path name) path.isEmpty =
        .ok (some declaration))
      (alone : kind = .classType → name ∉ keys) :
      IsBlockOf writer path keys inside ⟨some kind, name, element⟩ declaration.parts
  | host {name : String} {element : Value} {fields operators : List Part}
      (declared : declareWith writer .classType element (Group.dottedName path name) path.isEmpty =
        .ok (some (classDeclaration name fields operators)))
      (isKey : name ∈ keys) :
      IsBlockOf writer path keys inside ⟨some .classType, name, element⟩
        [.line "", .line ("record " ++ name ++ " is userdata"), .block fields, .block operators,
          .block (inside name), .line "end"]

/-- How a group that a path leads to is arranged, when `keys` are those of the groups inside it and
`inside` tells what these become. Every element has an entry, and the entries stand in order, each
as one block. Every group inside stands in the record of the class of its name or, when there is
none, alone behind all entries. -/
structure IsArranged (writer : StubWriter) (path : List String) (elements : List Value)
    (keys : List String) (inside : String → List Part) (entries : List Entry)
    (blocks : List (List Part)) (alone : List String) : Prop where
  complete : ∃ read, elements.mapM Entry.of = .ok read ∧ entries.Perm read
  ordered : entries.Pairwise Entry.Precedes
  declared : List.Forall₂ (IsBlockOf writer path keys inside) entries blocks
  ascending : alone.Pairwise (· < ·)
  once : ((entries.filterMap Entry.className?).filter (keys.contains ·) ++ alone).Perm keys

/-- A class is declared by a record with its fields and operators. -/
theorem exists_classDeclaration {writer : StubWriter} {element : Value} {fullName : String}
    {isOutermost : Bool} {declaration : Declaration} {name : String}
    (named : element.field? "name" = some (.text name))
    (declared : declareWith writer .classType element fullName isOutermost =
      .ok (some declaration)) :
    ∃ fields operators, declaration = classDeclaration name fields operators := by
  simp only [declareWith, declare?, Outcome.bind_eq_ok, Outcome.pure_eq_ok,
    Option.some.injEq] at declared
  obtain ⟨_, declared, rfl⟩ := declared
  obtain ⟨_, _, fieldLines, _, operatorLines, _, _, _, _, rfl⟩ :=
    exists_of_declareClass named declared
  exact ⟨fieldLines.flatten, operatorLines.flatten, rfl⟩

/-- Only a function can be left out. -/
theorem eq_function_of_declareWith {writer : StubWriter} {kind : Kind} {element : Value}
    {fullName : String} {isOutermost : Bool}
    (declared : declareWith writer kind element fullName isOutermost = .ok none) :
    kind = .function := by
  cases kind with
  | function => rfl
  | _ =>
      simp only [declareWith, declare?, Outcome.bind_eq_ok, Outcome.pure_eq_ok, reduceCtorEq,
        and_false, exists_false] at declared

/-- What the groups of a table become, nothing for those that are not in it or meet a fault. -/
def resultAt (nested : Table (Outcome (List Part))) (key : String) : List Part :=
  ((nested.get? key).bind Except.toOption).getD []

section Level

variable {writer : StubWriter} {path : List String} {nested : Table (Outcome (List Part))}

/-- The block of an entry, and the group it hosts. -/
theorem isBlockOf_of_entryParts {entry : Entry} (named : entry.element.field? "name" =
      some (.text entry.name)) {result : List Part × List String}
    (returns : entryParts (declareWith writer) path nested entry = .ok result) :
    IsBlockOf writer path nested.keys (resultAt nested) entry result.1 ∧
      result.2 = entry.className?.toList.filter (nested.keys.contains ·) ∧
      ∀ key ∈ result.2, ∃ parts, nested.get? key = some (.ok parts) := by
  obtain ⟨kind?, name, element⟩ := entry
  cases kind? with
  | none =>
      obtain rfl := Outcome.pure_eq_ok.1 returns
      exact ⟨.undeclarable name element, rfl, by simp⟩
  | some kind =>
      simp only [entryParts, Outcome.bind_eq_ok] at returns
      obtain ⟨declared?, declared, returns⟩ := returns
      cases declared? with
      | none =>
          obtain rfl := Outcome.pure_eq_ok.1 returns
          obtain rfl := eq_function_of_declareWith declared
          exact ⟨.leftOut declared, rfl, by simp⟩
      | some declaration =>
          dsimp only at returns
          split at returns
          · next computation found =>
              obtain ⟨parts, rfl, returns⟩ := Outcome.bind_eq_ok.1 returns
              obtain rfl := Outcome.pure_eq_ok.1 returns
              have isKey : name ∈ nested.keys := List.mem_map_of_mem (Table.mem_of_get? found)
              obtain ⟨fields, operators, rfl⟩ := exists_classDeclaration named declared
              have inside : resultAt nested name = parts := by
                rw [resultAt, found]
                rfl
              refine ⟨?_, ?_, ?_⟩
              · have block : IsBlockOf writer path nested.keys (resultAt nested) _ _ :=
                  .host declared isKey
                rwa [inside] at block
              · simp [Entry.className?, isKey]
              · simp [found]
          · next kind _ _ unhosted =>
              obtain rfl := Outcome.pure_eq_ok.1 returns
              -- An entry that is no class hosts nothing, and no group has the name of this class.
              have absent : kind = .classType → name ∉ nested.keys := by
                intro isClass isKey
                obtain ⟨inside, found⟩ := Table.exists_get?_of_mem_keys isKey
                exact unhosted inside isClass found
              refine ⟨.plain declared absent, ?_, by simp⟩
              by_cases isClass : kind = .classType
              · simp [Entry.className?, isClass, absent isClass]
              · simp [Entry.className?, isClass]

/-- The blocks of entries, and the groups they host. -/
theorem isBlockOf_of_entriesParts {entries : List Entry}
    (named : ∀ entry ∈ entries, entry.element.field? "name" = some (.text entry.name))
    {result : List Part × List String}
    (returns : entriesParts (declareWith writer) path nested entries = .ok result) :
    (∃ blocks, List.Forall₂ (IsBlockOf writer path nested.keys (resultAt nested)) entries blocks ∧
      result.1 = blocks.flatten) ∧
    result.2 = (entries.filterMap Entry.className?).filter (nested.keys.contains ·) ∧
    ∀ key ∈ result.2, ∃ parts, nested.get? key = some (.ok parts) := by
  induction entries generalizing result with
  | nil =>
      obtain rfl := Outcome.pure_eq_ok.1 returns
      exact ⟨⟨[], .nil, rfl⟩, rfl, by simp⟩
  | cons entry rest inductionHypothesis =>
      obtain ⟨first, others⟩ := List.forall_mem_cons.1 named
      simp only [entriesParts, Outcome.bind_eq_ok, Outcome.pure_eq_ok] at returns
      obtain ⟨own, ownParts, later, laterParts, rfl⟩ := returns
      obtain ⟨block, hosted, computed⟩ := isBlockOf_of_entryParts first ownParts
      obtain ⟨⟨blocks, areBlocks, joined⟩, hostedLater, computedLater⟩ :=
        inductionHypothesis others laterParts
      refine ⟨⟨own.1 :: blocks, .cons block areBlocks, by rw [joined, List.flatten_cons]⟩, ?_,
        List.forall_mem_append.2 ⟨computed, computedLater⟩⟩
      rw [hosted, hostedLater, filterMap_cons_eq_append, List.filter_append]

/-- The keys that are left of a sorted table ascend. -/
theorem pairwise_lt_remaining {hosted : List String} (distinct : nested.keys.Nodup) :
    ((nested.sorted.filter fun group => !hosted.contains group.1).map Prod.fst).Pairwise
      (· < ·) := by
  have sorted : (nested.sorted.map Prod.fst).Nodup :=
    ((List.mergeSort_perm nested _).map Prod.fst).nodup_iff.2 distinct
  have ascending : (nested.sorted.map Prod.fst).Pairwise (· < ·) :=
    sorted.imp₂ (fun _ _ differs le => String.not_le.1 fun ge => differs (String.le_antisymm le ge))
      (List.pairwise_map.2 (Table.pairwise_sorted nested))
  exact ascending.sublist (List.filter_sublist.map _)

/-- The records of groups hold what these have become. -/
theorem records_of_mapM (distinct : nested.keys.Nodup) {groups : Table (Outcome (List Part))}
    (among : groups ⊆ nested) {records : List (List Part)}
    (recorded : (groups.mapM fun group => return recordParts group.1 (← group.2)) =
      (.ok records : Outcome (List (List Part)))) :
    (records.flatten = (groups.map Prod.fst).flatMap fun key =>
      recordParts key (resultAt nested key)) ∧
    ∀ key ∈ groups.map Prod.fst, ∃ inside, nested.get? key = some (.ok inside) := by
  have found {group : String × Outcome (List Part)} (member : group ∈ groups) {inside : List Part}
      (isInside : group.2 = .ok inside) : nested.get? group.1 = some (.ok inside) :=
    isInside ▸ Table.get?_of_mem distinct (among member)
  have made : records = groups.map fun group =>
      recordParts group.1 (resultAt nested group.1) := by
    refine Outcome.eq_map_of_mapM recorded fun group member record made => ?_
    obtain ⟨inside, isInside, made⟩ := Outcome.bind_eq_ok.1 made
    obtain rfl := Outcome.pure_eq_ok.1 made
    simp [resultAt, found member isInside, Except.toOption]
  refine ⟨by rw [made, List.flatMap_map, List.flatMap_def], fun key isKey => ?_⟩
  obtain ⟨group, member, rfl⟩ := List.mem_map.1 isKey
  obtain ⟨record, _, made⟩ :=
    Outcome.exists_matched_right (Outcome.mapM_eq_ok.1 recorded) member
  obtain ⟨inside, isInside, _⟩ := Outcome.bind_eq_ok.1 made
  exact ⟨inside, found member isInside⟩

/-- The parts of a group are arranged: its entries in their order, and behind them a record for each
group that stands alone. Every group inside it has become something. -/
theorem isArranged_of_levelParts {elements : List Value} (distinct : nested.keys.Nodup)
    (classes : (classNames elements).Nodup) {parts : List Part}
    (returns : levelParts (declareWith writer) path elements nested = .ok parts) :
    (∃ entries blocks alone,
      IsArranged writer path elements nested.keys (resultAt nested) entries blocks alone ∧
        parts = blocks.flatten ++ alone.flatMap fun key => recordParts key (resultAt nested key)) ∧
      ∀ key ∈ nested.keys, ∃ inside, nested.get? key = some (.ok inside) := by
  obtain ⟨entries, ordered, returns⟩ := Outcome.bind_eq_ok.1 returns
  obtain ⟨⟨own, hosted⟩, ownParts, returns⟩ := Outcome.bind_eq_ok.1 returns
  obtain ⟨records, recorded, returns⟩ := Outcome.bind_eq_ok.1 returns
  obtain rfl := Outcome.pure_eq_ok.1 returns
  have named : ∀ entry ∈ entries, entry.element.field? "name" = some (.text entry.name) := by
    intro entry member
    obtain ⟨element, _, read⟩ := (mem_orderedEntries ordered).1 member
    obtain ⟨_, found, same⟩ := Entry.of_eq_ok.1 read
    rwa [same]
  obtain ⟨⟨blocks, areBlocks, rfl⟩, rfl, computed⟩ := isBlockOf_of_entriesParts named ownParts
  obtain ⟨joined, computedAlone⟩ := records_of_mapM distinct
    (fun group member => List.mem_mergeSort.1 (List.mem_of_mem_filter member)) recorded
  have once : ((entries.filterMap Entry.className?).filter (nested.keys.contains ·)).Nodup :=
    ((filterMap_orderedEntries ordered _).nodup_iff.2 classes).filter _
  have areKeys : (entries.filterMap Entry.className?).filter (nested.keys.contains ·) ⊆
      nested.keys := fun key isHosted => by simpa using (List.mem_filter.1 isHosted).2
  have all := visitedKeys_perm distinct areKeys once
  refine ⟨⟨entries, blocks, _, ⟨?_, pairwise_orderedEntries ordered, areBlocks,
    pairwise_lt_remaining distinct, all⟩, by rw [joined]; rfl⟩, fun key isKey => ?_⟩
  · obtain ⟨read, isRead, rfl⟩ := orderedEntries_eq_ok.1 ordered
    exact ⟨read, isRead, List.mergeSort_perm ..⟩
  · rcases List.mem_append.1 (all.mem_iff.2 isKey) with isHosted | isAlone
    · exact computed key isHosted
    · exact computedAlone key isAlone

end Level

/-! ## The whole of a group -/

/-- What the group under a key inside a group becomes, nothing when there is none. -/
def partsInside (writer : StubWriter) (path : List String) (group : Group) (key : String) :
    List Part :=
  ((group.groups.get? key).bind fun inside =>
    (renderGroup writer (path ++ [key]) inside).toOption).getD []

/-- A group that a path leads to is arranged as its parts: each entry as one block, and behind them
a record for each group that stands alone, with what that group becomes between its first line and
its end. -/
def IsArrangedAs (writer : StubWriter) (path : List String) (group : Group) (parts : List Part) :
    Prop :=
  ∃ entries blocks alone,
    IsArranged writer path group.elements group.groups.keys (partsInside writer path group) entries
      blocks alone ∧
    parts = blocks.flatten ++ alone.flatMap fun key =>
      [.line "", .line ("record " ++ key), .block (partsInside writer path group key), .line "end"]

/-- A group that becomes something is arranged as that, and so does every group inside it. -/
theorem isArrangedAs_of_renderGroup {writer : StubWriter} {path : List String} {group : Group}
    (unambiguous : IsUnambiguous group) {parts : List Part}
    (renders : renderGroup writer path group = .ok parts) :
    IsArrangedAs writer path group parts ∧
      ∀ key inside, group.groups.get? key = some inside →
        ∃ others, renderGroup writer (path ++ [key]) inside = .ok others := by
  obtain @⟨name, elements, groups, distinct, classes, _⟩ := unambiguous
  let nested : Table (Outcome (List Part)) :=
    groups.mapEntries fun key inside => renderGroup writer (path ++ [key]) inside
  have returns : levelParts (declareWith writer) path elements nested = .ok parts := by
    rwa [renderGroup, groupParts, groupsParts_eq_mapEntries] at renders
  have sameKeys : nested.keys = groups.keys := Table.keys_mapEntries ..
  have found (key : String) : nested.get? key =
      (groups.get? key).map fun inside => renderGroup writer (path ++ [key]) inside :=
    Table.get?_mapEntries ..
  have results : resultAt nested = partsInside writer path (.mk name elements groups) := by
    funext key
    rw [resultAt, found, partsInside, Group.groups]
    cases groups.get? key <;> rfl
  obtain ⟨⟨entries, blocks, alone, arranged, joined⟩, computed⟩ :=
    isArranged_of_levelParts (sameKeys ▸ distinct) classes returns
  rw [results] at arranged joined
  refine ⟨⟨entries, blocks, alone, sameKeys ▸ arranged, joined⟩, fun key inside isInside => ?_⟩
  have isKey : key ∈ nested.keys :=
    sameKeys ▸ List.mem_map_of_mem (Table.mem_of_get? isInside)
  obtain ⟨others, computedHere⟩ := computed key isKey
  rw [found, show groups.get? key = some inside from isInside] at computedHere
  exact ⟨others, Option.some.inj computedHere⟩

/-- Wherever keys lead in a group that becomes something, the group there becomes something, and is
arranged as that. -/
theorem exists_isArrangedAs_of_follow {writer : StubWriter} {path : List String} {group : Group}
    (unambiguous : IsUnambiguous group) {parts : List Part}
    (renders : renderGroup writer path group = .ok parts) {keys : List String} {inside : Group}
    (leads : group.follow keys = .ok inside) :
    ∃ partsHere, renderGroup writer (path ++ keys) inside = .ok partsHere ∧
      IsArrangedAs writer (path ++ keys) inside partsHere := by
  induction keys generalizing group path parts with
  | nil =>
      cases leads
      rw [List.append_nil]
      exact ⟨parts, renders, (isArrangedAs_of_renderGroup unambiguous renders).1⟩
  | cons key keys inductionHypothesis =>
      obtain ⟨next, found, leadsOn⟩ := Group.follow_cons_eq_ok.1 leads
      obtain ⟨others, rendersNext⟩ :=
        (isArrangedAs_of_renderGroup unambiguous renders).2 key next found
      obtain ⟨_, _, unambiguousInside⟩ := unambiguous
      have unambiguousNext := unambiguousInside _ (Table.mem_of_get? found)
      simpa using inductionHypothesis unambiguousNext rendersNext leadsOn

/-- Every part of a group has one place. When the groups that a path leads to become something, each
of their declarable elements is declared once, under its name behind the keys of its group; and
every group at any depth is arranged: its elements in order, and each group inside it once, either
in the record of the class of its name, directly before the end of that record, or in a record of
its own behind all elements. -/
theorem parts_placed_once (writer : StubWriter) (path : List String) (group : Group)
    (parts : List Part) (unambiguous : IsUnambiguous group)
    (renders : renderGroup writer path group = .ok parts) :
    (∃ calls, (groupParts (watch (declareWith writer)) path group).run [] = .ok (parts, calls) ∧
      calls.Perm ((group.placements path).filterMap callAt)) ∧
    ∀ keys inside, group.follow keys = .ok inside →
      ∃ partsHere, renderGroup writer (path ++ keys) inside = .ok partsHere ∧
        IsArrangedAs writer (path ++ keys) inside partsHere := by
  constructor
  · obtain ⟨calls, run, _, asked⟩ :=
      (perm_placements (declareWith writer) unambiguous path []).2 parts renders
    exact ⟨calls, run, asked⟩
  · intro keys inside leads
    exact exists_isArrangedAs_of_follow unambiguous renders leads

/-- A class with the group of its name inside it, and in that group one without a class, have one
place each. -/
theorem parts_placed_once_of_class_and_groups :
    let writer : StubWriter := { settings := .default, known := ⟨[]⟩ }
    let element (name type : String) : Value := .record [("name", .text name),
      ("type", .text type), ("fields", .record [("mass", .text "number")])]
    let group : Group := .mk "b2d" [element "body" "BASIC_CLASS"]
      [("body", .mk "body" [element "get" "FUNCTION"]
        [("joint", .mk "joint" [element "kind" "VARIABLE"] [])])]
    ∃ parts calls, renderGroup writer ["b2d"] group = .ok parts ∧
      (groupParts (watch (declareWith writer)) ["b2d"] group).run [] = .ok (parts, calls) ∧
      calls.Perm ((group.placements ["b2d"]).filterMap callAt) ∧
      ∃ inside others, group.follow ["body"] = .ok inside ∧
        renderGroup writer ["b2d", "body"] inside = .ok others ∧
        IsArrangedAs writer ["b2d", "body"] inside others := by
  intro writer element group
  have renders : (renderGroup writer ["b2d"] group).isOk = true := by decide +kernel
  obtain ⟨parts, returns⟩ := Outcome.exists_of_isOk renders
  have unambiguous : IsUnambiguous group := by
    refine .mk (by decide) (by decide +kernel) (List.forall_mem_singleton.2 ?_)
    refine .mk (by decide) (by decide +kernel) (List.forall_mem_singleton.2 ?_)
    exact .mk .nil (by decide +kernel) (by simp)
  obtain ⟨⟨calls, run, asked⟩, arranged⟩ :=
    parts_placed_once writer ["b2d"] group parts unambiguous returns
  obtain ⟨others, becomes, arrangedInside⟩ := arranged ["body"] _ rfl
  exact ⟨parts, calls, returns, run, asked, _, others, rfl, becomes, arrangedInside⟩

end Teal

end ApiStubs
