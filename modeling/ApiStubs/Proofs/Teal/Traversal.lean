import ApiStubs.Proofs.Teal.Watching
import Mathlib.Data.List.Perm.Basic

/-!
# The way through the groups

Which declarations are asked for on the way through groups: one for every element that can be
declared, of the kind that its type stands for, under its name behind the keys of its group. A group
is visited either with a class that has its name or after the elements of its parent.

- `watches_levelParts` says what is asked for in one group, given what is asked for in each visit of
  a group inside it, and that the groups visited are those that a class hosts and the others.
- `declarations_asked_for` says which declarations are asked for in tidy groups, by induction over
  the groups.
- `exists_concerns` and `exists_isAskedFor` match what is asked for with the elements that the
  groups hold.
-/

namespace ApiStubs.Teal

open ApiStubs.Reference

/-- The declaration asked for at an entry of the group of a path. -/
def callOf (path : List String) (entry : Entry) : Option Call :=
  entry.kind?.map fun kind =>
    { kind, element := entry.element, fullName := Group.dottedName path entry.name,
      isOutermost := path.isEmpty }

/-- The name of an entry that is a class. -/
def Entry.className? (entry : Entry) : Option String :=
  if entry.kind? = some .classType then some entry.name else none

/-- The entries of a group are those of its elements, in another order. -/
theorem orderedEntries_eq_ok {elements : List Value} {entries : List Entry} :
    orderedEntries elements = .ok entries ↔
      ∃ unordered, elements.mapM Entry.of = .ok unordered ∧
        unordered.mergeSort Entry.le = entries := by
  simp only [orderedEntries, Outcome.bind_eq_ok, Outcome.pure_eq_ok]

/-- The entries of a group are those of its elements. -/
theorem mem_orderedEntries {elements : List Value} {entries : List Entry}
    (returns : orderedEntries elements = .ok entries) {entry : Entry} :
    entry ∈ entries ↔ ∃ element ∈ elements, Entry.of element = .ok entry := by
  obtain ⟨unordered, read, rfl⟩ := orderedEntries_eq_ok.1 returns
  rw [List.mem_mergeSort, Outcome.mem_mapM_iff read]

/-- What is read off a list is what is read off the first member and off the others. -/
theorem filterMap_cons_eq_append {α β : Type} (read : α → Option β) (member : α)
    (rest : List α) :
    (member :: rest).filterMap read = (read member).toList ++ rest.filterMap read := by
  cases found : read member <;> simp [found]

/-- The groups inside a group are visited each under its own key. -/
theorem groupsParts_eq_mapEntries {m : Type → Type} [Monad m] [MonadLiftT Outcome m]
    (declare : Declare m) (path : List String) (groups : Table Group) :
    groupsParts declare path groups =
      groups.mapEntries fun key group => groupParts declare (path ++ [key]) group := by
  induction groups with
  | nil => rfl
  | cons entry rest inductionHypothesis =>
      obtain ⟨key, group⟩ := entry
      rw [groupsParts, inductionHypothesis]
      rfl

/-- Computations over a list add one visit after the other. -/
theorem Watches.mapM {declare : Declare Outcome} {α β : Type} {watched : α → Watched β}
    {plain : α → Outcome β} {visited : α → List Call → Prop} (members : List α)
    (each : ∀ member ∈ members,
      Watches declare (watched member) (plain member) fun _ calls => visited member calls) :
    Watches declare (members.mapM watched) (members.mapM plain) fun _ calls =>
      ∃ visits, List.Forall₂ visited members visits ∧ calls = visits.flatten := by
  induction members with
  | nil => exact .pure ⟨[], .nil, rfl⟩
  | cons member rest inductionHypothesis =>
      obtain ⟨first, others⟩ := List.forall_mem_cons.1 each
      rw [List.mapM_cons, List.mapM_cons]
      refine first.bind fun _ calls _ own =>
        (inductionHypothesis others).bind fun _ later _ visited => .pure ?_
      obtain ⟨visits, theirs, added⟩ := visited
      exact ⟨calls :: visits, .cons own theirs, by rw [added, List.append_nil, List.flatten_cons]⟩

section Level

variable (declare : Declare Outcome) (path : List String) {groups : Table Group}
  {watched : String → Group → Watched (List Part)} {plain : String → Group → Outcome (List Part)}
  {visited : String → List Call → Prop}

/-- At an entry its own declaration is asked for, and then the group that it hosts is visited. Only
a class hosts a group, and that of its name. -/
theorem watches_entryParts
    (each : ∀ entry ∈ groups, Watches declare (watched entry.1 entry.2) (plain entry.1 entry.2)
      fun _ calls => visited entry.1 calls) (entry : Entry) :
    Watches declare (entryParts (watch declare) path (groups.mapEntries watched) entry)
      (entryParts declare path (groups.mapEntries plain) entry) fun result calls =>
        (result.2 ⊆ groups.keys ∧ result.2.Sublist entry.className?.toList) ∧
          ∃ visits, List.Forall₂ visited result.2 visits ∧
            calls = (callOf path entry).toList ++ visits.flatten := by
  obtain ⟨kind?, name, element⟩ := entry
  cases kind? with
  | none => exact .pure ⟨by simp, [], .nil, rfl⟩
  | some kind =>
      refine (Watches.watch declare kind element _ path.isEmpty).bind
        fun declared? calls _ own => ?_
      subst own
      cases declared? with
      | none => exact .pure ⟨by simp, [], .nil, rfl⟩
      | some declaration =>
          simp only [Table.get?_mapEntries]
          cases found : groups.get? name with
          | none =>
              cases kind <;> exact .pure ⟨by simp, [], .nil, rfl⟩
          | some group =>
              cases kind with
              | classType =>
                  have member := Table.mem_of_get? found
                  have isKey : name ∈ groups.keys := List.mem_map_of_mem member
                  refine (each _ member).bind fun _ later _ theirs => .pure ⟨⟨?_, ?_⟩, [later], ?_⟩
                  · simpa using isKey
                  · exact List.Sublist.refl _
                  · exact ⟨.cons theirs .nil, by simp [callOf]⟩
              | _ => exact .pure ⟨by simp, [], .nil, rfl⟩

/-- At several entries their own declarations are asked for, and the groups that they host are
visited. -/
theorem watches_entriesParts
    (each : ∀ entry ∈ groups, Watches declare (watched entry.1 entry.2) (plain entry.1 entry.2)
      fun _ calls => visited entry.1 calls) (entries : List Entry) :
    Watches declare (entriesParts (watch declare) path (groups.mapEntries watched) entries)
      (entriesParts declare path (groups.mapEntries plain) entries) fun result calls =>
        (result.2 ⊆ groups.keys ∧ result.2.Sublist (entries.filterMap Entry.className?)) ∧
          ∃ visits, List.Forall₂ visited result.2 visits ∧
            calls.Perm (entries.filterMap (callOf path) ++ visits.flatten) := by
  induction entries with
  | nil => exact .pure ⟨by simp, [], .nil, .refl _⟩
  | cons entry rest inductionHypothesis =>
      refine (watches_entryParts declare path each entry).bind fun first calls _ own =>
        inductionHypothesis.bind fun others later _ theirs => .pure ?_
      obtain ⟨⟨areKeys, ofClass⟩, visits, visitedHere, rfl⟩ := own
      obtain ⟨⟨areKeysLater, ofClasses⟩, visitsLater, visitedLater, added⟩ := theirs
      refine ⟨⟨List.append_subset.2 ⟨areKeys, areKeysLater⟩, ?_⟩, visits ++ visitsLater,
        List.rel_append visitedHere visitedLater, ?_⟩
      · rw [filterMap_cons_eq_append]
        exact ofClass.append ofClasses
      · rw [List.append_nil, filterMap_cons_eq_append, List.flatten_append, List.append_assoc,
          List.append_assoc]
        refine .append_left _ ?_
        exact (added.append_left _).trans (List.perm_append_comm_assoc ..)

/-- The keys of the groups that are visited in a group: those that its entries host, and the others
in ascending order. -/
def visitedKeys {α : Type} (groups : Table α) (hosted : List String) : List String :=
  hosted ++ (groups.sorted.filter fun group => !hosted.contains group.1).map Prod.fst

/-- Every group inside a group is visited. -/
theorem mem_visitedKeys {α : Type} {groups : Table α} {hosted : List String}
    (areKeys : hosted ⊆ groups.keys) {key : String} :
    key ∈ visitedKeys groups hosted ↔ key ∈ groups.keys := by
  rw [visitedKeys, List.mem_append]
  constructor
  · rintro (isHosted | remains)
    · exact areKeys isHosted
    · obtain ⟨group, member, rfl⟩ := List.mem_map.1 remains
      exact List.mem_map_of_mem (List.mem_mergeSort.1 (List.mem_of_mem_filter member))
  · intro isKey
    obtain ⟨group, among, rfl⟩ := List.mem_map.1 isKey
    by_cases isHosted : group.1 ∈ hosted
    · exact .inl isHosted
    · refine .inr (List.mem_map_of_mem (List.mem_filter.2 ⟨List.mem_mergeSort.2 among, ?_⟩))
      simpa using isHosted

/-- In a group the declarations of its own elements are asked for, and each visit of a group inside
it adds what it asks for. -/
theorem watches_levelParts
    (each : ∀ entry ∈ groups, Watches declare (watched entry.1 entry.2) (plain entry.1 entry.2)
      fun _ calls => visited entry.1 calls) (elements : List Value) :
    Watches declare (levelParts (watch declare) path elements (groups.mapEntries watched))
      (levelParts declare path elements (groups.mapEntries plain)) fun _ calls =>
        ∃ entries hosted visits, orderedEntries elements = .ok entries ∧
          hosted ⊆ groups.keys ∧ hosted.Sublist (entries.filterMap Entry.className?) ∧
          List.Forall₂ visited (visitedKeys groups hosted) visits ∧
          calls.Perm (entries.filterMap (callOf path) ++ visits.flatten) := by
  refine (Watches.lift (orderedEntries elements)).bind fun entries calls _ lifted => ?_
  obtain ⟨read, rfl⟩ := lifted
  refine (watches_entriesParts declare path each entries).bind fun result calls _ hosting => ?_
  obtain ⟨parts, hosted⟩ := result
  obtain ⟨⟨areKeys, ofClasses⟩, visits, visitedHosted, own⟩ := hosting
  let remaining : Table Group := groups.sorted.filter fun group => !hosted.contains group.1
  have records : Watches declare
      (remaining.mapM fun group =>
        return recordParts group.1 (← watched group.1 group.2))
      (remaining.mapM fun group =>
        return recordParts group.1 (← plain group.1 group.2))
      fun _ later => ∃ visits,
        List.Forall₂ (fun group => visited group.1) remaining visits ∧ later = visits.flatten := by
    refine .mapM remaining fun group member => ?_
    have among : group ∈ groups := List.mem_mergeSort.1 (List.mem_of_mem_filter member)
    exact (each group among).bind fun _ added _ theirs => .pure (by simpa using theirs)
  simp only [Table.sorted_mapEntries]
  simp only [Table.mapEntries, List.filter_map, List.mapM_map]
  refine records.bind fun _ later _ recorded => .pure ?_
  obtain ⟨visitsLater, visitedRemaining, added⟩ := recorded
  refine ⟨entries, hosted, visits ++ visitsLater, read, areKeys, ofClasses, ?_, ?_⟩
  · exact List.rel_append visitedHosted (List.forall₂_map_left_iff.2 visitedRemaining)
  · rw [List.nil_append, List.append_nil, added, List.flatten_append, ← List.append_assoc]
    exact own.append_right _

end Level

/-- A declaration asked for somewhere in a group: that of an element in the group which a path of
keys leads to, under its name behind those keys. -/
def IsAskedFor (start : List String) (group : Group) (call : Call) : Prop :=
  ∃ path inside element entry, group.follow path = .ok inside ∧ element ∈ inside.elements ∧
    Entry.of element = .ok entry ∧ callOf (start ++ path) entry = some call

/-- What is asked for in a group concerns its own elements or lies inside the groups in it. -/
theorem isAskedFor_iff {start : List String} {name : String} {elements : List Value}
    {groups : Table Group} {call : Call} :
    IsAskedFor start (.mk name elements groups) call ↔
      (∃ element ∈ elements, ∃ entry, Entry.of element = .ok entry ∧
        callOf start entry = some call) ∨
      ∃ key group, groups.get? key = some group ∧ IsAskedFor (start ++ [key]) group call := by
  constructor
  · rintro ⟨path, inside, element, entry, leads, member, read, asked⟩
    cases path with
    | nil =>
        cases leads
        rw [List.append_nil] at asked
        exact .inl ⟨element, member, entry, read, asked⟩
    | cons key path =>
        obtain ⟨group, found, leadsOn⟩ := Group.follow_cons_eq_ok.1 leads
        refine .inr ⟨key, group, found, path, inside, element, entry, leadsOn, member, read, ?_⟩
        rwa [List.append_assoc, List.singleton_append]
  · rintro (⟨element, member, entry, read, asked⟩ | ⟨key, group, found, path, inside, element,
      entry, leads, member, read, asked⟩)
    · exact ⟨[], _, element, entry, rfl, member, read, by rwa [List.append_nil]⟩
    · refine ⟨key :: path, inside, element, entry, ?_, member, read, ?_⟩
      · exact Group.follow_cons_eq_ok.2 ⟨group, found, leads⟩
      · rwa [List.append_assoc, List.singleton_append] at asked

/-- What is asked for in several visits is asked for in one of them. -/
theorem mem_flatten_visits {inside : String → Call → Prop} {keys : List String}
    {visits : List (List Call)}
    (visited : List.Forall₂ (fun key calls => ∀ call, call ∈ calls ↔ inside key call) keys visits)
    {call : Call} : call ∈ visits.flatten ↔ ∃ key ∈ keys, inside key call := by
  induction visited with
  | nil => simp
  | cons asked _ inductionHypothesis => simp [asked, inductionHypothesis]

/-- On the way through tidy groups exactly the declarations of their elements are asked for. -/
theorem declarations_asked_for (declare : Declare Outcome) {group : Group} (tidy : group.Tidy)
    (path : List String) :
    Watches declare (groupParts (watch declare) path group) (groupParts declare path group)
      fun _ calls => ∀ call, call ∈ calls ↔ IsAskedFor path group call := by
  induction group using Group.induction generalizing path with
  | level name elements groups inductionHypothesis =>
      obtain ⟨_, distinct, _, _, _, tidyInside⟩ := tidy
      let inside (key : String) (call : Call) : Prop :=
        ∃ group, Table.get? groups key = some group ∧ IsAskedFor (path ++ [key]) group call
      let visited (key : String) (calls : List Call) : Prop :=
        ∀ call, call ∈ calls ↔ inside key call
      have each : ∀ entry ∈ groups,
          Watches declare (groupParts (watch declare) (path ++ [entry.1]) entry.2)
            (groupParts declare (path ++ [entry.1]) entry.2) fun _ calls =>
              visited entry.1 calls := by
        intro entry member
        have found := Table.get?_of_mem distinct member
        refine (inductionHypothesis entry member (tidyInside entry member)
          (path ++ [entry.1])).mono fun _ calls asked call => ?_
        rw [asked]
        simp [inside, found]
      rw [groupParts, groupParts, groupsParts_eq_mapEntries, groupsParts_eq_mapEntries]
      refine (watches_levelParts declare path each elements).mono fun _ calls level call => ?_
      obtain ⟨entries, hosted, visits, ordered, areKeys, _, visitedAll, asked⟩ := level
      rw [asked.mem_iff, List.mem_append, List.mem_filterMap, mem_flatten_visits visitedAll,
        isAskedFor_iff]
      refine or_congr ?_ (exists_congr fun key => ?_)
      · simp only [mem_orderedEntries ordered]
        grind
      · rw [mem_visitedKeys areKeys]
        constructor
        · rintro ⟨_, group, found, inside⟩
          exact ⟨group, found, inside⟩
        · rintro ⟨group, found, inside⟩
          exact ⟨List.mem_map_of_mem (Table.mem_of_get? found), group, found, inside⟩

/-! ## What is asked for of elements -/

/-- A declaration asked for an element: of its kind, for what it appears as in its group, and under
the name that it had before it was placed. -/
structure Call.Concerns (call : Call) (element : Value) : Prop where
  kind : Kind.of? element = .ok (some call.kind)
  shown : ∃ path, Group.IsShownAs path element call.element ∧ call.isOutermost = path.isEmpty
  fullName : element.field? "name" = some (.text call.fullName)

section Held

variable {root : Group} {declared : List Value} (held : root.Holds declared)

include held

/-- A declaration asked for in groups that hold elements concerns one of these. -/
theorem exists_concerns {call : Call} (asked : IsAskedFor [] root call) :
    ∃ element ∈ declared, call.Concerns element := by
  obtain ⟨path, inside, shown, entry, leads, member, read, made⟩ := asked
  obtain ⟨element, among, appears⟩ :=
    Outcome.exists_matched_left (held.elements path inside leads) member
  obtain ⟨last, namedShown, named⟩ := appears.named
  simp only [Entry.of, Outcome.bind_eq_ok, Value.require_eq_ok, namedShown, Option.some.injEq,
    exists_eq_left', Value.asText_eq_ok, Value.text.injEq, Outcome.pure_eq_ok] at read
  obtain ⟨kind?, ofKind, rfl⟩ := read
  obtain ⟨kind, rfl, rfl⟩ := Option.map_eq_some_iff.1 made
  rw [appears.kind_eq] at ofKind
  exact ⟨element, (List.mem_filter.1 among).1, ofKind, ⟨path, appears, rfl⟩, named⟩

/-- In groups that hold elements a declaration is asked for every element that can be declared. -/
theorem exists_isAskedFor {element : Value} (member : element ∈ declared) {kind : Kind}
    (ofKind : Kind.of? element = .ok (some kind)) :
    ∃ call, IsAskedFor [] root call ∧ call.kind = kind ∧ call.Concerns element := by
  obtain ⟨path, ⟨⟨inside, leads⟩, leadsHere⟩, _⟩ := held.placedOnce element member
  obtain ⟨shown, present, appears⟩ :=
    Outcome.exists_matched_right (held.elements path inside leads)
      (List.mem_filter.2 ⟨member, leadsHere⟩)
  obtain ⟨last, namedShown, named⟩ := appears.named
  have read : Entry.of shown = .ok ⟨some kind, last, shown⟩ := by
    rw [Entry.of, appears.kind_eq, ofKind, Value.require_eq_ok.2 namedShown]
    rfl
  exact ⟨_, ⟨path, inside, shown, _, leads, present, read, rfl⟩, rfl, ofKind, ⟨path, appears, rfl⟩,
    named⟩

end Held

end ApiStubs.Teal
