import ApiStubs.Proofs.Teal.Layout
import ApiStubs.Proofs.Teal.Traversal
import ApiStubs.Settings.Default

/-!
# The Teal file is well nested

The groups of the elements become nested records, and a class takes the group of its name into its
own. As every declaration is nested, so is every group, by induction over the groups; and the whole
file is what the scan of nested parts makes of the outermost one, with its declarations made global.
-/

namespace ApiStubs.Teal

open ApiStubs.Reference

/-- All that is made of an element is nested. -/
def DeclaresNested (declare : Declare Outcome) (element : Value) : Prop :=
  ∀ kind fullName isOutermost declaration,
    declare kind element fullName isOutermost = .ok (some declaration) → declaration.Nests kind

section Level

variable {declare : Declare Outcome} {path : List String} {nested : Table (Outcome (List Part))}
  (inside : ∀ entry ∈ nested, Text.IsUnspaced entry.1 ∧
    ∀ parts, entry.2 = .ok parts → IsNested parts)

include inside

/-- The parts of one element are nested, with the group that is put into it. -/
theorem isNested_entryParts {entry : Entry}
    (nests : DeclaresNested declare entry.element)
    {result : List Part × List String}
    (returns : entryParts declare path nested entry = .ok result) : IsNested result.1 := by
  obtain ⟨kind?, name, element⟩ := entry
  cases kind? with
  | none =>
      obtain rfl := Outcome.pure_eq_ok.1 returns
      exact .nil
  | some kind =>
      simp only [entryParts, Outcome.bind_eq_ok] at returns
      obtain ⟨declared?, declared, returns⟩ := returns
      cases declared? with
      | none =>
          obtain rfl := Outcome.pure_eq_ok.1 returns
          exact .nil
      | some declaration =>
          have nestsHere := nests kind _ _ declaration declared
          dsimp only at returns
          split at returns
          · next computation found =>
              obtain ⟨parts, computed, returns⟩ := Outcome.bind_eq_ok.1 returns
              obtain rfl := Outcome.pure_eq_ok.1 returns
              have nested := (inside _ (Table.mem_of_get? found)).2 parts computed
              exact nestsHere.around rfl parts nested
          · obtain rfl := Outcome.pure_eq_ok.1 returns
            exact nestsHere.parts

/-- The parts of several elements are nested, with the groups that are put into them. -/
theorem isNested_entriesParts {entries : List Entry}
    (nests : ∀ entry ∈ entries, DeclaresNested declare entry.element)
    {result : List Part × List String}
    (returns : entriesParts declare path nested entries = .ok result) : IsNested result.1 := by
  induction entries generalizing result with
  | nil =>
      obtain rfl := Outcome.pure_eq_ok.1 returns
      exact .nil
  | cons entry rest inductionHypothesis =>
      obtain ⟨first, others⟩ := List.forall_mem_cons.1 nests
      simp only [entriesParts, Outcome.bind_eq_ok, Outcome.pure_eq_ok] at returns
      obtain ⟨own, ownParts, later, laterParts, rfl⟩ := returns
      exact (isNested_entryParts inside first ownParts).append
        (inductionHypothesis others laterParts)

/-- The parts of a group are nested: those of its elements, and a record for each group that no
element hosts. -/
theorem isNested_levelParts {elements : List Value}
    (nests : ∀ element ∈ elements, DeclaresNested declare element)
    {parts : List Part} (returns : levelParts declare path elements nested = .ok parts) :
    IsNested parts := by
  obtain ⟨entries, ordered, returns⟩ := Outcome.bind_eq_ok.1 returns
  obtain ⟨⟨own, hosted⟩, ownParts, returns⟩ := Outcome.bind_eq_ok.1 returns
  obtain ⟨records, recorded, returns⟩ := Outcome.bind_eq_ok.1 returns
  obtain rfl := Outcome.pure_eq_ok.1 returns
  have nestsEntries : ∀ entry ∈ entries, DeclaresNested declare entry.element := by
    intro entry member
    obtain ⟨element, among, read⟩ := (mem_orderedEntries ordered).1 member
    simp only [Entry.of, Outcome.bind_eq_ok, Outcome.pure_eq_ok] at read
    obtain ⟨_, _, _, _, _, _, rfl⟩ := read
    exact nests element among
  refine (isNested_entriesParts inside nestsEntries ownParts).append (.flatten ?_)
  intro record member
  obtain ⟨group, among, made⟩ := (Outcome.mem_mapM_iff recorded).1 member
  obtain ⟨body, computed, made⟩ := Outcome.bind_eq_ok.1 made
  obtain rfl := Outcome.pure_eq_ok.1 made
  have present : group ∈ nested := List.mem_mergeSort.1 (List.mem_filter.1 among).1
  obtain ⟨unspaced, nestedBody⟩ := inside group present
  have blocks : ∀ block ∈ [body], IsNested block := by simpa using nestedBody body computed
  exact .single .blank (.record (.group unspaced) blocks .nil)

end Level

/-- The parts of a tidy group are nested when its keys are unspaced and its elements are declared by
nested parts. -/
theorem isNested_groupParts {declare : Declare Outcome} {admits : Value → Prop}
    (nests : ∀ element, admits element → DeclaresNested declare element)
    {group : Group} (tidy : group.Tidy)
    (admitted : ∀ keys inside, group.follow keys = .ok inside →
      (∀ key ∈ keys, Text.IsUnspaced key) ∧ ∀ element ∈ inside.elements, admits element)
    (path : List String) {parts : List Part} (returns : groupParts declare path group = .ok parts) :
    IsNested parts := by
  induction group using Group.induction generalizing path parts with
  | level name elements groups inductionHypothesis =>
      obtain ⟨_, distinct, _, _, _, tidyInside⟩ := tidy
      rw [groupParts, groupsParts_eq_mapEntries] at returns
      refine isNested_levelParts ?_ (fun element member => ?_) returns
      · intro entry member
        obtain ⟨⟨key, group⟩, among, rfl⟩ := List.mem_map.1 member
        -- A path inside the group is one inside the level, behind the key of the group.
        have admittedBehind (keys : List String) (inside : Group)
            (leads : group.follow keys = .ok inside) :=
          admitted (key :: keys) inside
            (Group.follow_cons_eq_ok.2 ⟨group, Table.get?_of_mem distinct among, leads⟩)
        refine ⟨(admittedBehind [] group rfl).1 key (List.mem_cons_self ..), ?_⟩
        intro body computed
        refine inductionHypothesis _ among (tidyInside _ among) (fun keys inside leads => ?_) _
          computed
        obtain ⟨unspaced, elementsAdmitted⟩ := admittedBehind keys inside leads
        exact ⟨fun other isKey => unspaced other (List.mem_cons_of_mem _ isKey), elementsAdmitted⟩
      · exact nests element ((admitted [] _ rfl).2 element member)

/-- Following one path after the other is following both at once. -/
theorem follow_append {group inside final : Group} {path more : List String}
    (leads : group.follow path = .ok inside) (leadsOn : inside.follow more = .ok final) :
    group.follow (path ++ more) = .ok final := by
  induction path generalizing group with
  | nil =>
      cases leads
      exact leadsOn
  | cons key path inductionHypothesis =>
      obtain ⟨next, found, leadsNext⟩ := Group.follow_cons_eq_ok.1 leads
      exact Group.follow_cons_eq_ok.2 ⟨next, found, inductionHypothesis leadsNext⟩

/-- Inside a tidy group every group has an element in itself or below it. -/
theorem isInhabited_of_follow {group inside : Group} (tidy : group.Tidy) {path : List String}
    (nonempty : path ≠ []) (leads : group.follow path = .ok inside) : inside.IsInhabited := by
  induction path generalizing group with
  | nil => exact absurd rfl nonempty
  | cons key path inductionHypothesis =>
      obtain ⟨_, _, _, _, inhabited, tidyInside⟩ := tidy
      obtain ⟨next, found, leadsOn⟩ := Group.follow_cons_eq_ok.1 leads
      have member := Table.mem_of_get? found
      cases path with
      | nil =>
          cases leadsOn
          exact inhabited _ member
      | cons second others =>
          exact inductionHypothesis (tidyInside _ member) (by simp) leadsOn

/-- The keys and the last segment of an unspaced name are unspaced. -/
theorem isUnspaced_of_dottedName {path : List String} {last : String}
    (unspaced : Text.IsUnspaced (Group.dottedName path last)) :
    (∀ key ∈ path, Text.IsUnspaced key) ∧ Text.IsUnspaced last := by
  rw [Text.IsUnspaced, Group.toList_dottedName] at unspaced
  refine ⟨fun key isKey char member => unspaced char ?_, fun char member => unspaced char ?_⟩
  · exact List.mem_append_left _
      (List.mem_flatMap.2 ⟨key, isKey, List.mem_append_left _ member⟩)
  · exact List.mem_append_right _ member

/-- What an element with unspaced names appears as has unspaced names and stands behind unspaced
keys. -/
theorem unspaced_of_isShownAs {path : List String} {element shown : Value}
    (appears : Group.IsShownAs path element shown) (unspaced : HasUnspacedNames element) :
    (∀ key ∈ path, Text.IsUnspaced key) ∧ HasUnspacedNames shown := by
  obtain ⟨⟨last, namedShown, named⟩, others⟩ := appears
  obtain ⟨keys, lastUnspaced⟩ := isUnspaced_of_dottedName (unspaced.name _ named)
  refine ⟨keys, ⟨fun name found => ?_, fun fields entries found => ?_⟩⟩
  · rw [namedShown] at found
    exact Value.text.inj (Option.some.inj found) ▸ lastUnspaced
  · exact unspaced.fields fields entries (others "fields" (by decide) ▸ found)

/-- In groups that hold elements with unspaced names, keys and names are unspaced. -/
theorem unspaced_of_holds {root : Group} {declared : List Value} (held : root.Holds declared)
    (unspaced : ∀ element ∈ declared, HasUnspacedNames element) (path : List String)
    (inside : Group) (leads : root.follow path = .ok inside) :
    (∀ key ∈ path, Text.IsUnspaced key) ∧ ∀ shown ∈ inside.elements,
      HasUnspacedNames shown ∧ ∃ name, shown.field? "name" = some (.text name) := by
  have shownIn {keys : List String} {group : Group} (follows : root.follow keys = .ok group)
      {shown : Value} (member : shown ∈ group.elements) :
      (∀ key ∈ keys, Text.IsUnspaced key) ∧ HasUnspacedNames shown ∧
        ∃ name, shown.field? "name" = some (.text name) := by
    obtain ⟨element, among, appears⟩ :=
      Outcome.exists_matched_left (held.elements keys group follows) member
    obtain ⟨unspacedKeys, unspacedNames⟩ :=
      unspaced_of_isShownAs appears (unspaced element (List.mem_filter.1 among).1)
    obtain ⟨last, named, _⟩ := appears.named
    exact ⟨unspacedKeys, unspacedNames, last, named⟩
  refine ⟨?_, fun shown member => (shownIn leads member).2⟩
  by_cases isRoot : path = []
  · simp [isRoot]
  · obtain ⟨more, final, leadsOn, nonempty⟩ := isInhabited_of_follow held.tidy isRoot leads
    obtain ⟨shown, member⟩ := List.exists_mem_of_ne_nil _ nonempty
    have unspacedKeys := (shownIn (follow_append leads leadsOn) member).1
    exact fun key isKey => unspacedKeys key (List.mem_append_left _ isKey)

/-- The Teal file of modules is well nested behind its header, as long as no name of an element or
of a field holds a space or a tab. -/
theorem isWellNested_renderLines (writer : StubWriter) (version : String) (modules : List Value)
    (lines : List String)
    (unspaced : ∀ module ∈ modules, ∀ members, membersOf module = .ok members →
      ∀ element ∈ members, HasUnspacedNames element)
    (renders : renderLines writer version modules = .ok lines) :
    IsWellNested 0 (lines.drop 5) := by
  obtain ⟨root, grouped, parts, rendered, renders⟩ := by
    simpa only [renderLines, Outcome.bind_eq_ok, Outcome.pure_eq_ok] using renders
  obtain ⟨selected, declared, selects, read, held⟩ := Group.holds_of_ofModules grouped
  have unspacedDeclared : ∀ element ∈ declared, HasUnspacedNames element := by
    intro element member
    obtain ⟨module, among, members, isRead, present⟩ :=
      exists_mem_of_selectAll selects read member
    exact unspaced module among members isRead element present
  have nests : ∀ element, (HasUnspacedNames element ∧
      ∃ name, element.field? "name" = some (.text name)) →
        DeclaresNested (declareWith writer) element := by
    rintro element ⟨names, name, named⟩ kind fullName isOutermost declaration made
    exact nests_of_declare? named names made
  have nested : IsNested parts :=
    isNested_groupParts nests held.tidy (unspaced_of_holds held unspacedDeclared) [] rendered
  have scanned : IsWellNested 0 (Part.linesOf (tabs 0) (parts.map (shownPart 0)) ++ []) :=
    nested.isWellNested 0 rfl
  rw [map_shownPart_zero, List.append_nil] at scanned
  rw [← renders]
  exact scanned

/-- A class that hosts the group of its name, with a field whose comment looks like the opening of a
record and a function whose description looks like the end of one, is well nested. -/
theorem isWellNested_of_class_and_group :
    let writer : StubWriter := { settings := .default, known := ⟨[]⟩ }
    let classElement : Value := .record [("name", .text "b2d.body"), ("type", .text "BASIC_CLASS"),
      ("fields", .record [("mass", .text "number its mass\nrecord x")])]
    let function : Value := .record [("name", .text "b2d.body.get"), ("type", .text "FUNCTION"),
      ("description", .text "the\nend")]
    let modules : List Value :=
      [.record [("namespace", .text "meta"), ("elements", .list [classElement, function])]]
    ∃ lines, renderLines writer "1" modules = .ok lines ∧ IsWellNested 0 (lines.drop 5) := by
  intro writer classElement function modules
  have renders : (renderLines writer "1" modules).isOk = true := by decide +kernel
  obtain ⟨lines, returns⟩ : ∃ lines, renderLines writer "1" modules = .ok lines :=
    Outcome.exists_of_isOk renders
  have ofClass : HasUnspacedNames classElement := by
    refine ⟨fun name found => ?_, fun fields entries found read => ?_⟩
    · obtain rfl : "b2d.body" = name := Value.text.inj (Option.some.inj found)
      decide
    · obtain rfl : Value.record [("mass", .text "number its mass\nrecord x")] = fields :=
        Option.some.inj found
      rw [Value.sortedFields_record] at read
      obtain rfl := Except.ok.inj read
      decide +kernel
  have ofFunction : HasUnspacedNames function := by
    refine ⟨fun name found => ?_, fun _ _ found => (nomatch found)⟩
    obtain rfl : "b2d.body.get" = name := Value.text.inj (Option.some.inj found)
    decide
  have unspaced : ∀ module ∈ modules, ∀ members, membersOf module = .ok members →
      ∀ element ∈ members, HasUnspacedNames element := by
    intro module member members read
    rw [List.mem_singleton.1 member] at read
    obtain rfl : [classElement, function] = members := Except.ok.inj read
    simp [ofClass, ofFunction]
  exact ⟨lines, returns, isWellNested_renderLines writer "1" modules lines unspaced returns⟩

end ApiStubs.Teal
