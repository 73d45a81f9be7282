import ApiStubs.Proofs.Reference.Selection
import ApiStubs.Reference.Group
import ApiStubs.Reference.Kind

/-!
# Where elements are placed

Placing elements into groups neither loses nor repeats nor misplaces one of them. The view of a
group is the list of elements at each path of keys; inserting an element adds it to the list at
one path and leaves all others alone.

- `Group.elementsAt_foldl_put` gives the view after any sequence of elements.
- `Group.Tidy` is what every insertion preserves: distinct keys without dots, groups named by
  their keys, and no group without an element somewhere below it.
- `Group.Holds` puts both together, and `Group.holds_of_ofModules` says it of the groups of several
  modules.
-/

namespace ApiStubs.Reference

/-- The elements of a module. -/
def membersOf (module : Value) : Outcome (List Value) := do
  (← module.require "elements").items

/-- The elements of several modules, one module after the other. -/
def elementsOf (modules : List Value) : Outcome (List Value) := do
  return (← modules.mapM membersOf).flatten

/-- The elements that a module is given are those that are read of it. -/
theorem membersOf_withElements {module value : Value} {key : String}
    (found : module.require key = .ok value) (elements : List Value) :
    membersOf (module.withField "elements" (.list elements)) = .ok elements := by
  obtain ⟨fields, rfl⟩ := Value.exists_record_of_field? (Value.require_eq_ok.1 found)
  rw [membersOf, Value.require_eq_ok.2 (Value.field?_withField_record ..)]
  rfl

/-! ## Selected elements -/

/-- What is left of members that are rejected by a condition are those that do not meet it. -/
theorem mem_rejecting_iff {condition : Value → Outcome Bool} {members kept : List Value}
    (returns : rejecting condition members = .ok kept) {member : Value} :
    member ∈ kept ↔ member ∈ members ∧ condition member = .ok false := by
  induction members generalizing kept with
  | nil =>
      obtain rfl := Except.ok.inj returns
      simp
  | cons first rest inductionHypothesis =>
      simp only [rejecting, Outcome.bind_eq_ok, Outcome.pure_eq_ok] at returns
      obtain ⟨isMet, decided, others, later, rfl⟩ := returns
      have inRest := inductionHypothesis later
      by_cases isFirst : member = first
      · subst isFirst
        cases isMet <;> simp [decided, inRest]
      · cases isMet <;> simp [isFirst, inRest]

/-- What is left of a module has those of its elements that do not meet the condition. -/
theorem exists_members_of_withoutElements {condition : Value → Outcome Bool} {module rest : Value}
    (returns : withoutElements condition module = .ok rest) :
    ∃ members kept, membersOf module = .ok members ∧ membersOf rest = .ok kept ∧
      ∀ element, element ∈ kept ↔ element ∈ members ∧ condition element = .ok false := by
  simp only [withoutElements, Outcome.bind_eq_ok, Outcome.pure_eq_ok] at returns
  obtain ⟨value, found, members, read, kept, rejected, rfl⟩ := returns
  exact ⟨members, kept, Outcome.bind_eq_ok.2 ⟨value, found, read⟩,
    membersOf_withElements found kept, fun element => mem_rejecting_iff rejected⟩

/-- A module all of whose elements are elements of another. -/
def Narrows (module whole : Value) : Prop :=
  ∀ members, membersOf module = .ok members → ∀ element ∈ members,
    ∃ all, membersOf whole = .ok all ∧ element ∈ all

/-- What is left when elements are left out was there before, and does not meet the condition that
the others are left out by. -/
theorem unmet_of_changeWhen {isActive : Bool} {condition : Value → Outcome Bool}
    {module rest : Value}
    (returns : changeWhen isActive (withoutElements condition) module = .ok rest)
    {kept : List Value} (read : membersOf rest = .ok kept) {element : Value}
    (member : element ∈ kept) : (isActive = true → condition element = .ok false) ∧
      ∃ members, membersOf module = .ok members ∧ element ∈ members := by
  cases isActive with
  | false =>
      obtain rfl := Except.ok.inj returns
      exact ⟨nofun, kept, read, member⟩
  | true =>
      obtain ⟨members, others, readModule, readRest, remains⟩ :=
        exists_members_of_withoutElements returns
      obtain rfl := Except.ok.inj (readRest.symm.trans read)
      obtain ⟨among, unmet⟩ := (remains element).1 member
      exact ⟨fun _ => unmet, members, readModule, among⟩

/-- A selection of a module narrows it. -/
theorem narrows_select {selection : Selection} {module selected : Value}
    (returns : selection.select module = .ok selected) : Narrows selected module := by
  simp only [Selection.select, Outcome.bind_eq_ok] at returns
  obtain ⟨space, found, answer, _, returns⟩ := returns
  split at returns
  · obtain rfl := Outcome.pure_eq_ok.1 returns
    intro members read element member
    obtain rfl := Except.ok.inj ((membersOf_withElements found []).symm.trans read)
    simp at member
  · simp only [Outcome.bind_eq_ok] at returns
    obtain ⟨afterStarts, first, afterTables, second, barred, _, third⟩ := returns
    intro kept read element member
    obtain ⟨_, _, readTables, inTables⟩ := unmet_of_changeWhen third read member
    obtain ⟨_, _, readStarts, inStarts⟩ := unmet_of_changeWhen second readTables inTables
    exact (unmet_of_changeWhen first readStarts inStarts).2

/-- An element of a module is still one of what is left of the module. -/
def Keeps (element module rest : Value) : Prop :=
  ∀ members, membersOf module = .ok members → element ∈ members →
    ∃ kept, membersOf rest = .ok kept ∧ element ∈ kept

/-- An element that is kept in one step and in the next is kept in both. -/
theorem Keeps.trans {element first second third : Value} (keeps : Keeps element first second)
    (keepsLater : Keeps element second third) : Keeps element first third := by
  intro members read member
  obtain ⟨kept, readKept, present⟩ := keeps members read member
  exact keepsLater kept readKept present

/-- Leaving out the elements that meet a condition keeps one that does not. -/
theorem keeps_withoutElements {condition : Value → Outcome Bool} {module rest element : Value}
    (returns : withoutElements condition module = .ok rest)
    (unmet : condition element = .ok false) : Keeps element module rest := by
  obtain ⟨members, kept, readModule, readRest, remains⟩ := exists_members_of_withoutElements returns
  intro others read member
  obtain rfl := Except.ok.inj (readModule.symm.trans read)
  exact ⟨kept, readRest, (remains element).2 ⟨member, unmet⟩⟩

/-- A change made under a condition keeps an element when the change does. -/
theorem keeps_changeWhen {condition : Bool} {change : Value → Outcome Value}
    {module rest element : Value}
    (keeps : condition = true → ∀ rest, change module = .ok rest → Keeps element module rest)
    (returns : changeWhen condition change module = .ok rest) : Keeps element module rest := by
  cases condition with
  | false =>
      obtain rfl := Except.ok.inj returns
      exact fun members read member => ⟨members, read, member⟩
  | true => exact keeps rfl rest returns

/-- A rule of a selection leaves an element of a namespace out: it begins with a barred start, is a
global table, or has a name that is barred there. -/
inductive Bars (selection : Selection) (space : String) (element : Value) : Prop
  | start (begins : selection.hasBarredStart element = .ok true)
  | globalTable (omits : selection.omitsGlobalTables = true)
      (isGlobal : isGlobalTable element = .ok true)
  | name {names : List Value} (barred : selection.barredNames.get? space = some names)
      (isNamed : Selection.isNamedIn names element = .ok true)

/-- A selection that admits a namespace keeps every element of it that none of its rules leaves
out. -/
theorem keeps_select {selection : Selection} (textual : selection.HasTextStarts)
    {module selected element : Value} {space : String}
    (found : module.field? "namespace" = some (.text space))
    (admitted : selection.admits (.text space) = .ok true) (shaped : IsElement element)
    (unbarred : ¬ Bars selection space element)
    (returns : selection.select module = .ok selected) : Keeps element module selected := by
  obtain ⟨begins, decidedStart⟩ : ∃ begins, selection.hasBarredStart element = .ok begins :=
    ⟨_, Selection.hasBarredStart_eq textual shaped⟩
  obtain ⟨isGlobal, decidedTable⟩ : ∃ isGlobal, isGlobalTable element = .ok isGlobal :=
    ⟨_, shaped.isGlobalTable_eq⟩
  rw [Selection.select, Value.require_eq_ok.2 found, Outcome.ok_bind, admitted,
    Outcome.ok_bind] at returns
  simp only [Bool.not_true, Bool.false_eq_true, if_false, Outcome.bind_eq_ok, Value.lookupIn]
    at returns
  obtain ⟨afterStarts, first, afterTables, second, barred?, looked, third⟩ := returns
  have keepsFirst : Keeps element module afterStarts := by
    refine keeps_changeWhen (fun _ rest changed => keeps_withoutElements changed ?_) first
    cases begins with
    | false => exact decidedStart
    | true => exact absurd (.start decidedStart) unbarred
  have keepsSecond : Keeps element afterStarts afterTables := by
    refine keeps_changeWhen (fun omits rest changed => keeps_withoutElements changed ?_) second
    cases isGlobal with
    | false => exact decidedTable
    | true => exact absurd (.globalTable omits decidedTable) unbarred
  have keepsThird : Keeps element afterTables selected := by
    refine keeps_changeWhen (fun hasNames rest changed => keeps_withoutElements changed ?_) third
    cases barred? with
    | none => simp at hasNames
    | some names =>
        obtain ⟨isNamed, decidedName⟩ :
            ∃ isNamed, Selection.isNamedIn names element = .ok isNamed :=
          ⟨_, Selection.isNamedIn_eq names shaped⟩
        cases isNamed with
        | false => exact decidedName
        | true => exact absurd (.name (Except.ok.inj looked) decidedName) unbarred
  exact keepsFirst.trans (keepsSecond.trans keepsThird)

/-- None of the rules of a selection leaves out what it keeps of a module. -/
theorem not_bars_of_mem_select {selection : Selection} {module selected : Value} {space : String}
    (found : module.field? "namespace" = some (.text space))
    (returns : selection.select module = .ok selected) {kept : List Value}
    (read : membersOf selected = .ok kept) {element : Value} (member : element ∈ kept) :
    ¬ Bars selection space element := by
  have located := Value.require_eq_ok.2 found
  rw [Selection.select, located, Outcome.ok_bind] at returns
  obtain ⟨answer, _, returns⟩ := Outcome.bind_eq_ok.1 returns
  split at returns
  · obtain rfl := Outcome.pure_eq_ok.1 returns
    obtain rfl := Except.ok.inj ((membersOf_withElements located []).symm.trans read)
    simp at member
  · simp only [Outcome.bind_eq_ok, Value.lookupIn] at returns
    obtain ⟨afterStarts, first, afterTables, second, barred?, looked, third⟩ := returns
    obtain ⟨unnamed, _, readTables, inTables⟩ := unmet_of_changeWhen third read member
    obtain ⟨noTable, _, readStarts, inStarts⟩ := unmet_of_changeWhen second readTables inTables
    obtain ⟨noStart, _⟩ := unmet_of_changeWhen first readStarts inStarts
    intro bars
    cases bars with
    | start begins =>
        cases starts : selection.barredStarts with
        | nil =>
            simp only [Selection.hasBarredStart, Outcome.bind_eq_ok, starts] at begins
            obtain ⟨_, _, _, _, begins⟩ := begins
            cases begins
        | cons start rest => cases begins.symm.trans (noStart (by simp [starts]))
    | globalTable omits isGlobal => cases isGlobal.symm.trans (noTable omits)
    | @name names barred isNamed =>
        obtain rfl : some names = barred? := barred.symm.trans (Except.ok.inj looked)
        cases names with
        | nil =>
            obtain ⟨_, _, isNamed⟩ := Outcome.bind_eq_ok.1 isNamed
            obtain ⟨_, _, isNamed⟩ := Outcome.map_eq_ok.1 isNamed
            cases isNamed
        | cons first rest => cases isNamed.symm.trans (unnamed rfl)

/-- The selected elements are those that the selection keeps of the modules. -/
theorem mem_selected_iff {selection : Selection} {modules selected elements : List Value}
    (selects : selection.selectAll modules = .ok selected)
    (read : elementsOf selected = .ok elements) {element : Value} :
    element ∈ elements ↔ ∃ module ∈ modules, ∃ chosen kept,
      selection.select module = .ok chosen ∧ membersOf chosen = .ok kept ∧ element ∈ kept := by
  simp only [elementsOf, Outcome.bind_eq_ok, Outcome.pure_eq_ok] at read
  obtain ⟨lists, readLists, rfl⟩ := read
  rw [List.mem_flatten]
  constructor
  · rintro ⟨kept, among, inside⟩
    obtain ⟨chosen, present, isRead⟩ := (Outcome.mem_mapM_iff readLists).1 among
    obtain ⟨module, source, selectsModule⟩ := (Outcome.mem_mapM_iff selects).1 present
    exact ⟨module, source, chosen, kept, selectsModule, isRead, inside⟩
  · rintro ⟨module, source, chosen, kept, selectsModule, isRead, inside⟩
    have present := (Outcome.mem_mapM_iff selects).2 ⟨module, source, selectsModule⟩
    exact ⟨kept, (Outcome.mem_mapM_iff readLists).2 ⟨chosen, present, isRead⟩, inside⟩

/-- A selected element is one of a module that was selected from. -/
theorem exists_mem_of_selectAll {selection : Selection} {modules selected elements : List Value}
    (selects : selection.selectAll modules = .ok selected)
    (read : elementsOf selected = .ok elements) {element : Value} (member : element ∈ elements) :
    ∃ module ∈ modules, ∃ members, membersOf module = .ok members ∧ element ∈ members := by
  obtain ⟨module, source, chosen, kept, selectsModule, isRead, inside⟩ :=
    (mem_selected_iff selects read).1 member
  exact ⟨module, source, narrows_select selectsModule kept isRead element inside⟩

namespace Group

/-! ## Elements by path -/

/-- The elements of the group that a path leads to, none where it leads nowhere. -/
def elementsAt (group : Group) : List String → List Value
  | [] => group.elements
  | key :: path =>
      match group.groups.get? key with
      | some inside => inside.elementsAt path
      | none => []

/-- An empty group has no element at any path. -/
theorem elementsAt_empty (name : String) (path : List String) :
    (empty name).elementsAt path = [] := by
  cases path <;> rfl

/-- The elements at a path are those at the rest of it in the group under its first key. -/
theorem mem_elementsAt_cons {group : Group} {key : String} {path : List String} {element : Value} :
    element ∈ group.elementsAt (key :: path) ↔
      ∃ next, group.groups.get? key = some next ∧ element ∈ next.elementsAt path := by
  rw [elementsAt]
  cases group.groups.get? key with
  | none => simp
  | some next => simp

/-- A path that leads to a group leads to its elements. -/
theorem elementsAt_of_follow {group inside : Group} {path : List String}
    (leads : group.follow path = .ok inside) : group.elementsAt path = inside.elements := by
  induction path generalizing group with
  | nil =>
      cases leads
      rfl
  | cons key path inductionHypothesis =>
      obtain ⟨next, found, leadsOn⟩ := follow_cons_eq_ok.1 leads
      simp only [elementsAt, found]
      exact inductionHypothesis leadsOn

/-- A path with elements leads to a group. -/
theorem exists_follow_of_mem {group : Group} {path : List String} {element : Value}
    (member : element ∈ group.elementsAt path) : ∃ inside, group.follow path = .ok inside := by
  induction path generalizing group with
  | nil => exact ⟨group, rfl⟩
  | cons key path inductionHypothesis =>
      obtain ⟨next, found, among⟩ := mem_elementsAt_cons.1 member
      obtain ⟨inside, leadsOn⟩ := inductionHypothesis among
      exact ⟨inside, follow_cons_eq_ok.2 ⟨next, found, leadsOn⟩⟩

/-- Inserting an element adds it at its path and nowhere else. -/
theorem elementsAt_insertAt (path : List String) (element : Value) (group : Group)
    (other : List String) :
    (insertAt path element group).elementsAt other =
      group.elementsAt other ++ if other = path then [element] else [] := by
  induction path generalizing group other with
  | nil =>
      obtain ⟨name, elements, groups⟩ := group
      cases other with
      | nil => simp [insertAt, elementsAt, Group.elements]
      | cons key rest => simp [insertAt, elementsAt, Group.groups]
  | cons key path inductionHypothesis =>
      obtain ⟨name, elements, groups⟩ := group
      cases other with
      | nil => simp [insertAt, elementsAt, Group.elements]
      | cons first rest =>
          simp only [insertAt, elementsAt, Group.groups]
          by_cases same : first = key
          · subst same
            rw [Table.get?_modify_self]
            simp only [inductionHypothesis, List.cons.injEq, true_and]
            cases Table.get? groups first with
            | none => simp [elementsAt_empty]
            | some inside => simp
          · rw [Table.get?_modify_of_ne same]
            simp [same]

/-! ## Tidy groups -/

/-- A group with an element in itself or somewhere below it. -/
def IsInhabited (group : Group) : Prop :=
  ∃ path inside, group.follow path = .ok inside ∧ inside.elements ≠ []

/-- A group as insertions make it, at every level: its elements have names without dots, its keys
are distinct and without dots, and a group inside it has its key for a name and is not void. -/
inductive Tidy : Group → Prop
  | mk {name : String} {elements : List Value} {groups : Table Group}
      (named : ∀ element ∈ elements,
        ∃ last, element.field? "name" = some (.text last) ∧ '.' ∉ last.toList)
      (distinct : groups.keys.Nodup)
      (dotless : ∀ key ∈ groups.keys, '.' ∉ key.toList)
      (keyed : ∀ entry ∈ groups, entry.2.name = entry.1)
      (inhabited : ∀ entry ∈ groups, entry.2.IsInhabited)
      (inside : ∀ entry ∈ groups, Tidy entry.2) :
      Tidy (.mk name elements groups)

/-- A group with nothing in it is tidy. -/
theorem tidy_empty (name : String) : Tidy (empty name) :=
  .mk (by simp) (by simp [Table.keys]) (by simp [Table.keys]) (by simp) (by simp) (by simp)

/-- The keys of a tidy group are distinct. -/
theorem Tidy.nodup_keys {group : Group} (tidy : Tidy group) : group.groups.keys.Nodup := by
  obtain ⟨_, distinct, _⟩ := tidy
  exact distinct

/-- The groups inside a tidy one are tidy. -/
theorem Tidy.inside {group inside : Group} (tidy : Tidy group) {key : String}
    (found : group.groups.get? key = some inside) : Tidy inside := by
  obtain ⟨_, _, _, _, _, tidyInside⟩ := tidy
  exact tidyInside _ (Table.mem_of_get? found)

/-- An insertion leaves no group without an element. -/
theorem isInhabited_insertAt (path : List String) (element : Value) (group : Group) :
    (insertAt path element group).IsInhabited := by
  have member : element ∈ (insertAt path element group).elementsAt path := by
    simp [elementsAt_insertAt]
  obtain ⟨inside, leads⟩ := exists_follow_of_mem member
  rw [elementsAt_of_follow leads] at member
  exact ⟨path, inside, leads, List.ne_nil_of_mem member⟩

/-- Inserting does not rename a group. -/
theorem name_insertAt (path : List String) (element : Value) (group : Group) :
    (insertAt path element group).name = group.name := by
  obtain ⟨name, elements, groups⟩ := group
  cases path <;> rfl

/-- Inserting an element under dotless keys and a dotless name keeps a group tidy. -/
theorem Tidy.insertAt {group : Group} (tidy : Tidy group) {path : List String} {element : Value}
    {last : String} (dotlessPath : ∀ key ∈ path, '.' ∉ key.toList)
    (named : element.field? "name" = some (.text last)) (dotlessName : '.' ∉ last.toList) :
    Tidy (insertAt path element group) := by
  induction path generalizing group with
  | nil =>
      obtain ⟨namedBefore, distinct, dotless, keyed, inhabited, inside⟩ := tidy
      refine .mk (fun other member => ?_) distinct dotless keyed inhabited inside
      rcases List.mem_append.1 member with before | added
      · exact namedBefore other before
      · rw [List.mem_singleton.1 added]
        exact ⟨last, named, dotlessName⟩
  | cons key path inductionHypothesis =>
      obtain ⟨dotlessKey, dotlessRest⟩ := List.forall_mem_cons.1 dotlessPath
      obtain @⟨name, elements, groups, namedBefore, distinct, dotless, keyed, inhabited, inside⟩ :=
        tidy
      -- The group that receives the element is the one under the key, or a new one of its name.
      have receiver : Tidy ((groups.get? key).getD (empty key)) ∧
          ((groups.get? key).getD (empty key)).name = key := by
        cases found : groups.get? key with
        | none => exact ⟨tidy_empty key, rfl⟩
        | some present =>
            have member := Table.mem_of_get? found
            exact ⟨inside _ member, keyed _ member⟩
      refine .mk namedBefore (Table.nodup_keys_set distinct) (fun other member => ?_) ?_ ?_ ?_
      · rcases Table.mem_keys_set.1 member with rfl | present
        · exact dotlessKey
        · exact dotless other present
      · intro entry member
        rcases Table.mem_of_mem_set member with rfl | present
        · rw [name_insertAt, receiver.2]
        · exact keyed entry present
      · intro entry member
        rcases Table.mem_of_mem_set member with rfl | present
        · exact isInhabited_insertAt ..
        · exact inhabited entry present
      · intro entry member
        rcases Table.mem_of_mem_set member with rfl | present
        · exact inductionHypothesis receiver.1 dotlessRest
        · exact inside entry present

/-- A group that a path leads to in a tidy one is tidy. -/
theorem Tidy.of_follow {group inside : Group} (tidy : Tidy group) {path : List String}
    (leads : group.follow path = .ok inside) : Tidy inside := by
  induction path generalizing group with
  | nil =>
      cases leads
      exact tidy
  | cons key path inductionHypothesis =>
      obtain ⟨next, found, leadsOn⟩ := follow_cons_eq_ok.1 leads
      exact inductionHypothesis (tidy.inside found) leadsOn

/-- The elements of a tidy group have names without dots. -/
theorem Tidy.named {group : Group} (tidy : Tidy group) : ∀ element ∈ group.elements,
    ∃ last, element.field? "name" = some (.text last) ∧ '.' ∉ last.toList := by
  obtain ⟨named, _⟩ := tidy
  exact named

/-- The keys on the way to a group of a tidy one hold no dots. -/
theorem Tidy.dotless_of_follow {group inside : Group} (tidy : Tidy group) {path : List String}
    (leads : group.follow path = .ok inside) : ∀ key ∈ path, '.' ∉ key.toList := by
  induction path generalizing group with
  | nil => simp
  | cons key path inductionHypothesis =>
      obtain ⟨_, _, dotless, _, _, tidyInside⟩ := tidy
      obtain ⟨next, found, leadsOn⟩ := follow_cons_eq_ok.1 leads
      have member := Table.mem_of_get? found
      refine List.forall_mem_cons.2 ⟨dotless key (List.mem_map_of_mem member), ?_⟩
      exact inductionHypothesis (tidyInside _ member) leadsOn

/-! ## Placing by dotted names -/

/-- The name of an element, empty when it has no text for a name. -/
def nameOf (element : Value) : String :=
  ((element.field? "name").bind Value.text?).getD ""

/-- The path of keys that the name of an element leads through. -/
def home (element : Value) : List String :=
  (segments (nameOf element)).dropLast

/-- An element under the last segment of its name. -/
def localized (element : Value) : Value :=
  element.withField "name" (.text ((segments (nameOf element)).getLastD ""))

/-- A group with an element put where its name leads. -/
def put (group : Group) (element : Value) : Group :=
  insertAt (home element) (localized element) group

/-- After several elements have been put into a group, every path has those at home there, in their
order. -/
theorem elementsAt_foldl_put (elements : List Value) (group : Group) (path : List String) :
    (elements.foldl put group).elementsAt path =
      group.elementsAt path ++
        (elements.filter fun element => home element == path).map localized := by
  induction elements generalizing group with
  | nil => simp
  | cons element rest inductionHypothesis =>
      rw [List.foldl_cons, inductionHypothesis, put, elementsAt_insertAt]
      by_cases same : home element = path
      · simp [same]
      · simp [same, Ne.symm same]

/-- Placing an element needs a text for its name, and puts the element where that leads. -/
theorem place_eq_ok (group : Group) (element : Value) (next : Group) :
    group.place element = .ok next ↔
      (∃ name, element.field? "name" = some (.text name)) ∧ put group element = next := by
  simp only [place, Outcome.bind_eq_ok, Value.require_eq_ok, Value.asText_eq_ok,
    Outcome.pure_eq_ok]
  constructor
  · rintro ⟨_, found, name, rfl, placed⟩
    exact ⟨⟨name, found⟩, by simpa [put, home, localized, nameOf, found] using placed⟩
  · rintro ⟨⟨name, found⟩, placed⟩
    exact ⟨_, found, name, rfl, by simpa [put, home, localized, nameOf, found] using placed⟩

/-- Placing the elements of a module is placing its elements in order. -/
theorem placeAll_eq_ok {module : Value} {group next : Group} :
    group.placeAll module = .ok next ↔
      ∃ members, membersOf module = .ok members ∧ members.foldlM place group = .ok next := by
  simp only [placeAll, membersOf, Outcome.bind_eq_ok]
  constructor
  · rintro ⟨value, found, members, read, placed⟩
    exact ⟨members, ⟨value, found, read⟩, placed⟩
  · rintro ⟨members, ⟨value, found, read⟩, placed⟩
    exact ⟨value, found, members, read, placed⟩

/-- Placing the elements of modules is placing all of their elements in order. -/
theorem foldlM_placeAll_eq_ok {modules : List Value} {group root : Group} :
    modules.foldlM placeAll group = .ok root ↔
      ∃ elements, elementsOf modules = .ok elements ∧ elements.foldlM place group = .ok root := by
  induction modules generalizing group with
  | nil => simp [elementsOf, Outcome.pure_eq_ok]
  | cons module rest inductionHypothesis =>
      simp only [List.foldlM_cons, placeAll_eq_ok, Outcome.bind_eq_ok, inductionHypothesis,
        elementsOf, List.mapM_cons, Outcome.pure_eq_ok]
      constructor
      · rintro ⟨middle, ⟨members, read, first⟩, _, ⟨others, readOthers, rfl⟩, later⟩
        refine ⟨_, ⟨_, ⟨members, read, others, readOthers, rfl⟩, rfl⟩, ?_⟩
        rw [List.flatten_cons, List.foldlM_append, Outcome.bind_eq_ok]
        exact ⟨middle, first, later⟩
      · rintro ⟨_, ⟨_, ⟨members, read, others, readOthers, rfl⟩, rfl⟩, placed⟩
        rw [List.flatten_cons, List.foldlM_append, Outcome.bind_eq_ok] at placed
        obtain ⟨middle, first, later⟩ := placed
        exact ⟨middle, ⟨members, read, first⟩, _, ⟨others, readOthers, rfl⟩, later⟩

/-- Whether the name of an element is dotted behind the keys of a path, with one segment more. -/
def leadsTo (path : List String) (element : Value) : Bool :=
  let start := path.flatMap fun key => key.toList ++ ['.']
  match element.field? "name" with
  | some (.text name) =>
      start.isPrefixOf name.toList && !(name.toList.drop start.length).contains '.'
  | _ => false

/-- The characters of a dotted name: every key with a dot behind it, and the last segment. -/
theorem toList_dottedName (path : List String) (last : String) :
    (dottedName path last).toList =
      (path.flatMap fun key => key.toList ++ ['.']) ++ last.toList := by
  rw [dottedName, Text.toList_join]
  induction path with
  | nil => rfl
  | cons key rest inductionHypothesis =>
      cases rest with
      | nil => simp [Text.joinChars]
      | cons second others =>
          simp only [List.cons_append, List.map_cons, Text.joinChars, List.flatMap_cons,
            List.append_assoc] at inductionHypothesis ⊢
          rw [inductionHypothesis]
          rfl

/-- An element leads to a path exactly when its name is that of something at the path. -/
theorem leadsTo_iff {path : List String} {element : Value} :
    leadsTo path element = true ↔
      ∃ last, '.' ∉ last.toList ∧ element.field? "name" = some (.text (dottedName path last)) := by
  constructor
  · intro leads
    simp only [leadsTo] at leads
    split at leads
    · next name found =>
        rw [Bool.and_eq_true, Bool.not_eq_true', List.isPrefixOf_iff_prefix] at leads
        obtain ⟨⟨rest, split⟩, dotless⟩ := leads
        refine ⟨String.ofList rest, ?_, ?_⟩
        · simpa [← split] using dotless
        · have same : dottedName path (String.ofList rest) = name := by
            apply String.toList_injective
            rw [toList_dottedName, String.toList_ofList, split]
          rw [found, same]
    · simp at leads
  · rintro ⟨last, dotless, found⟩
    simp [leadsTo, found, toList_dottedName, dotless]

/-- An element with a text for its name leads home, and to no other path without dots. -/
theorem leadsTo_iff_home {path : List String} (dotless : ∀ key ∈ path, '.' ∉ key.toList)
    {element : Value} (named : ∃ name, element.field? "name" = some (.text name)) :
    leadsTo path element = true ↔ home element = path := by
  obtain ⟨name, found⟩ := named
  have nameIs : nameOf element = name := by simp [nameOf, found]
  rw [leadsTo_iff, home, nameIs, found]
  constructor
  · rintro ⟨last, dotlessLast, same⟩
    have dotlessAll : ∀ key ∈ path ++ [last], '.' ∉ key.toList := by
      intro key member
      rcases List.mem_append.1 member with inPath | isLast
      · exact dotless key inPath
      · exact List.mem_singleton.1 isLast ▸ dotlessLast
    rw [Value.text.inj (Option.some.inj same), segments_dottedName dotlessAll,
      List.dropLast_concat]
  · rintro rfl
    refine ⟨(segments name).getLastD "", dotless_getLastD_segments name, ?_⟩
    rw [dottedName_segments]

/-- An element as it appears in the group of a path: its name is what stands behind the keys, and
every other field is as it was. -/
structure IsShownAs (path : List String) (element shown : Value) : Prop where
  named : ∃ last, shown.field? "name" = some (.text last) ∧
    element.field? "name" = some (.text (dottedName path last))
  others : ∀ key, key ≠ "name" → shown.field? key = element.field? key

/-- An element and what it appears as have the same fields, apart from their names. -/
theorem IsShownAs.get?_eq {path : List String} {element shown : Value}
    (appears : IsShownAs path element shown) : ∃ fields shownFields, element = .record fields ∧
      shown = .record shownFields ∧
        ∀ key, key ≠ "name" → Table.get? shownFields key = Table.get? fields key := by
  obtain ⟨⟨last, namedShown, named⟩, others⟩ := appears
  obtain ⟨fields, rfl⟩ := Value.exists_record_of_field? named
  obtain ⟨shownFields, rfl⟩ := Value.exists_record_of_field? namedShown
  exact ⟨fields, shownFields, rfl, rfl, others⟩

/-- What an element appears as has the kind of the element. -/
theorem IsShownAs.kind_eq {path : List String} {element shown : Value}
    (appears : IsShownAs path element shown) : Kind.of? shown = Kind.of? element := by
  obtain ⟨fields, shownFields, rfl, rfl, same⟩ := appears.get?_eq
  simp only [Kind.of?, Value.require, same "type" (by decide)]

/-- An element that leads to a path appears there under the last segment of its name. -/
theorem isShownAs_localized {path : List String} {element : Value}
    (named : ∃ name, element.field? "name" = some (.text name)) (isHome : home element = path) :
    IsShownAs path element (localized element) := by
  obtain ⟨name, found⟩ := named
  obtain ⟨fields, rfl⟩ := Value.exists_record_of_field? found
  have nameIs : nameOf (.record fields) = name := by simp [nameOf, found]
  refine ⟨⟨(segments name).getLastD "", ?_, ?_⟩, fun key differs => ?_⟩
  · rw [localized, nameIs, Value.field?_withField_record]
  · rw [← isHome, home, nameIs, dottedName_segments, found]
  · rw [localized, Value.field?_withField_of_ne differs]

/-- A group that holds elements, each exactly once and in order, in the group that its name leads
to. -/
structure Holds (root : Group) (declared : List Value) : Prop where
  elements : ∀ path inside, root.follow path = .ok inside →
    List.Forall₂ (IsShownAs path) (declared.filter (leadsTo path)) inside.elements
  placedOnce : ∀ element ∈ declared,
    ∃! path, (∃ inside, root.follow path = .ok inside) ∧ leadsTo path element = true
  tidy : root.Tidy

/-- Putting a named element into a group keeps it tidy. -/
theorem Tidy.put {group : Group} (tidy : Tidy group) {element : Value}
    (named : ∃ name, element.field? "name" = some (.text name)) : Tidy (put group element) := by
  obtain ⟨name, found⟩ := named
  obtain ⟨fields, rfl⟩ := Value.exists_record_of_field? found
  have dotlessPath : ∀ key ∈ home (.record fields), '.' ∉ key.toList := fun key member =>
    dotless_of_mem_segments (List.dropLast_subset _ member)
  exact tidy.insertAt dotlessPath (Value.field?_withField_record ..) (dotless_getLastD_segments _)

/-- Putting named elements one after the other into a group keeps it tidy. -/
theorem Tidy.foldl_put {group : Group} (tidy : Tidy group) {elements : List Value}
    (named : ∀ element ∈ elements, ∃ name, element.field? "name" = some (.text name)) :
    Tidy (elements.foldl Group.put group) := by
  induction elements generalizing group with
  | nil => exact tidy
  | cons element rest inductionHypothesis =>
      obtain ⟨first, others⟩ := List.forall_mem_cons.1 named
      exact inductionHypothesis (tidy.put first) others

/-- The groups made of named elements hold them. -/
theorem holds_of_foldlM_place {declared : List Value} {root : Group}
    (placed : declared.foldlM place outermost = .ok root) : root.Holds declared := by
  obtain ⟨named, rfl⟩ := (Outcome.foldlM_eq_ok place_eq_ok).1 placed
  have tidy : Tidy (declared.foldl put outermost) := (tidy_empty "").foldl_put named
  have view := elementsAt_foldl_put declared outermost
  refine ⟨fun path inside leads => ?_, fun element member => ?_, tidy⟩
  · have dotless := tidy.dotless_of_follow leads
    have sameFilter : declared.filter (leadsTo path) =
        declared.filter fun element => home element == path := by
      refine List.filter_congr fun element member => ?_
      rw [Bool.eq_iff_iff, beq_iff_eq]
      exact leadsTo_iff_home dotless (named element member)
    rw [← elementsAt_of_follow leads, view, outermost, elementsAt_empty, List.nil_append,
      sameFilter, List.forall₂_map_right_iff, List.forall₂_same]
    intro element member
    obtain ⟨among, isHome⟩ := List.mem_filter.1 member
    exact isShownAs_localized (named element among) (beq_iff_eq.1 isHome)
  · have present : localized element ∈
        (declared.foldl put outermost).elementsAt (home element) := by
      rw [view]
      exact List.mem_append_right _
        (List.mem_map_of_mem (List.mem_filter.2 ⟨member, beq_self_eq_true _⟩))
    obtain ⟨inside, leads⟩ := exists_follow_of_mem present
    refine ⟨home element, ⟨⟨inside, leads⟩, ?_⟩, ?_⟩
    · exact (leadsTo_iff_home (tidy.dotless_of_follow leads) (named element member)).2 rfl
    · rintro path ⟨⟨other, leadsOther⟩, leadsHere⟩
      exact ((leadsTo_iff_home (tidy.dotless_of_follow leadsOther) (named element member)).1
        leadsHere).symm

/-- The elements of shaped modules are named. -/
theorem exists_elementsOf {modules : List Value} (shaped : ∀ module ∈ modules, IsModule module) :
    ∃ elements, elementsOf modules = .ok elements ∧ ∀ element ∈ elements, IsElement element := by
  induction modules with
  | nil => exact ⟨[], rfl, by simp⟩
  | cons module rest inductionHypothesis =>
      obtain ⟨first, others⟩ := List.forall_mem_cons.1 shaped
      obtain ⟨members, found, each⟩ := first.elements
      obtain ⟨elements, read, eachOther⟩ := inductionHypothesis others
      refine ⟨members ++ elements, ?_, fun element member => ?_⟩
      · simp only [elementsOf, Outcome.bind_eq_ok, Outcome.pure_eq_ok] at read ⊢
        obtain ⟨lists, readLists, rfl⟩ := read
        refine ⟨members :: lists, ?_, rfl⟩
        rw [List.mapM_cons, membersOf, Value.require_eq_ok.2 found, readLists]
        rfl
      · rcases List.mem_append.1 member with here | later
        · exact each element here
        · exact eachOther element later

/-- A selection of shaped modules always has groups. -/
theorem exists_ofModules {selection : Selection} {modules : List Value}
    (textual : selection.HasTextStarts) (shaped : ∀ module ∈ modules, IsModule module) :
    ∃ root, ofModules selection modules = .ok root := by
  obtain ⟨selected, selects, shapedSelected⟩ := Selection.exists_selectAll textual shaped
  obtain ⟨declared, read, each⟩ := exists_elementsOf shapedSelected
  have placed : declared.foldlM place outermost = .ok (declared.foldl put outermost) :=
    (Outcome.foldlM_eq_ok place_eq_ok).2 ⟨fun element member => (each element member).name, rfl⟩
  exact ⟨_, Outcome.bind_eq_ok.2 ⟨selected, selects,
    foldlM_placeAll_eq_ok.2 ⟨declared, read, placed⟩⟩⟩

/-- The groups of a selection hold the elements that it selects. -/
theorem holds_of_ofModules {selection : Selection} {modules : List Value} {root : Group}
    (returns : ofModules selection modules = .ok root) :
    ∃ selected declared, selection.selectAll modules = .ok selected ∧
      elementsOf selected = .ok declared ∧ root.Holds declared := by
  obtain ⟨selected, selects, placedAll⟩ := Outcome.bind_eq_ok.1 returns
  obtain ⟨declared, read, placed⟩ := foldlM_placeAll_eq_ok.1 placedAll
  exact ⟨selected, declared, selects, read, holds_of_foldlM_place placed⟩

/-- The groups of several modules hold every element that the selection declares: each exactly once,
in the group that its name leads to, in order and otherwise unchanged; and the groups are tidy. A
selection of shaped modules always has such groups. -/
theorem ofModules_places_every_element (selection : Selection) (modules : List Value) :
    (selection.HasTextStarts → (∀ module ∈ modules, IsModule module) →
      ∃ root, ofModules selection modules = .ok root) ∧
    ∀ root, ofModules selection modules = .ok root →
      ∃ selected declared, selection.selectAll modules = .ok selected ∧
        elementsOf selected = .ok declared ∧ root.Holds declared := by
  constructor
  · intro textual shaped
    exact exists_ofModules textual shaped
  · intro root returns
    exact holds_of_ofModules returns

/-- Names with void segments, and one that names both an element and a group, are placed too. -/
theorem ofModules_places_void_segments :
    let selection : Selection := { barredStarts := [.text "editor"] }
    let element (name : String) : Value := .record [("name", .text name)]
    let modules : List Value := [.record [("namespace", .text "go"),
      ("elements", .list [element "a..b", element ".x", element "a.", element "a",
        element "editor.y"])]]
    ∃ root selected declared, ofModules selection modules = .ok root ∧
      selection.selectAll modules = .ok selected ∧ elementsOf selected = .ok declared ∧
        root.Holds declared := by
  intro selection element modules
  have isElement (name : String) : IsElement (element name) :=
    ⟨⟨name, rfl⟩, by simp [element, Value.field?_record, Table.get?_cons]⟩
  have shaped : ∀ module ∈ modules, IsModule module := by
    intro module member
    rw [List.mem_singleton.1 member]
    refine ⟨⟨"go", rfl⟩, _, rfl, ?_⟩
    simp [isElement]
  have textual : selection.HasTextStarts := by simp [selection, Selection.HasTextStarts]
  obtain ⟨root, returns⟩ := (ofModules_places_every_element selection modules).1 textual shaped
  obtain ⟨selected, declared, held⟩ :=
    (ofModules_places_every_element selection modules).2 root returns
  exact ⟨root, selected, declared, returns, held⟩

end Group

end ApiStubs.Reference
