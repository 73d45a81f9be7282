import ApiStubs.Proofs.Reference.Order
import ApiStubs.Proofs.Teal.Arrangement

/-!
# The Teal file does not depend on order

Rearranged modules are written to the same Teal file. A declaration reads the fields and operators
of a class in ascending order and everything else by key, so elements that are alike are declared
alike. In a group the entries that can be declared stand in one order only, as no two of them have
the same kind and name; entries that cannot be declared may stand in any. The groups inside it are
looked up by key or read in ascending order. So groups that are alike become the same parts, by
induction over the groups.
-/

namespace ApiStubs.Teal

open ApiStubs.Reference

/-! ## Declarations -/

/-- Classes that are alike are declared alike. -/
theorem declareClass_eq_of_alike (writer : StubWriter) (fullName : Value) {element other : Value}
    (alike : AreAlike element other) :
    declareClass writer element fullName = declareClass writer other fullName := by
  obtain ⟨operators, otherOperators, found, foundOther, reordered⟩ :=
    alike.exists_get (show "operators" ∈ mappings by decide)
  have read := (reordered.orElse (.record [])).sortedFields_eq
  have fields := alike.agrees_require (show "fields" ∈ mappings by decide)
  rw [declareClass, declareClass, alike.require_eq (show "name" ∉ mappings by decide),
    alike.hasKey_eq, found, foundOther]
  simp only [Outcome.ok_bind, read]
  refine congrArg _ (funext fun name => congrArg _ (funext fun hasFields => ?_))
  split
  · rfl
  · refine fields.bind_eq fun value otherValue reordered => ?_
    rw [reordered.sortedFields_eq]

/-- Elements that are alike are declared alike. -/
theorem declareWith_eq_of_alike (writer : StubWriter) {element other : Value}
    (alike : AreAlike element other) (kind : Kind) (fullName : String) (isOutermost : Bool) :
    declareWith writer kind element fullName isOutermost =
      declareWith writer kind other fullName isOutermost := by
  have name := alike.require_eq (show "name" ∉ mappings by decide)
  have description := alike.get_eq (show "description" ∉ mappings by decide)
  cases kind with
  | function =>
      simp only [declareWith, declare?, declareFunction?, alike.ofElement_eq, name,
        description]
  | «variable» => simp only [declareWith, declare?, declareVariable, name, description]
  | classType => simp only [declareWith, declare?, declareClass_eq_of_alike writer _ alike]
  | aliasType =>
      simp only [declareWith, declare?, declareAlias, name,
        alike.require_eq (show "alias" ∉ mappings by decide)]

/-! ## Entries -/

/-- Entries of the same kind and name whose elements are alike. -/
structure Entry.AreAlike (entry other : Entry) : Prop where
  kind : entry.kind? = other.kind?
  name : entry.name = other.name
  element : Reference.AreAlike entry.element other.element

/-- Rearranged elements have rearranged entries. -/
theorem exists_entries {elements others : List Value}
    (rearranged : IsRearranged Reference.AreAlike elements others) :
    ∃ entries otherEntries, elements.mapM Entry.of = .ok entries ∧
      others.mapM Entry.of = .ok otherEntries ∧
      IsRearranged Entry.AreAlike entries otherEntries := by
  refine rearranged.exists_mapM fun element other alike => ?_
  obtain ⟨name, named, namedOther⟩ := alike.exists_name
  obtain ⟨type, typed⟩ := alike.typed
  let kind? := Kind.byType.get? type
  refine ⟨⟨kind?, name, element⟩, ⟨kind?, name, other⟩, ?_, ?_, ⟨rfl, rfl, alike⟩⟩
  · exact Entry.of_eq_ok.2 ⟨kind_of_typed typed, named, rfl⟩
  · exact Entry.of_eq_ok.2 ⟨alike.kind_eq ▸ kind_of_typed typed, namedOther, rfl⟩

/-- Entries that precede each other have the same kind and name. -/
theorem Entry.Precedes.antisymm {first second : Entry} (precedes : first.Precedes second)
    (follows : second.Precedes first) : first.kind? = second.kind? ∧ first.name = second.name := by
  rcases precedes with before | ⟨same, le⟩
  · rcases follows with after | ⟨same, _⟩
    · exact absurd before (Nat.lt_asymm after)
    · exact absurd before (by simp [same])
  · rcases follows with after | ⟨_, ge⟩
    · exact absurd after (by simp [same])
    · exact ⟨same, String.le_antisymm le ge⟩

/-- Rearranged entries that stand in order stand for each other one by one, when no two of them have
the same kind and name. -/
theorem forall₂_of_rearranged {entries others : List Entry}
    (rearranged : IsRearranged Entry.AreAlike entries others)
    (ordered : entries.Pairwise Entry.Precedes) (orderedOthers : others.Pairwise Entry.Precedes)
    (distinct : (entries.map fun entry => (entry.kind?, entry.name)).Nodup) :
    List.Forall₂ Entry.AreAlike entries others := by
  refine rearranged.forall₂_of_pairwise ordered orderedOthers ?_ ?_
  · intro entry other next nextOther alike alikeNext precedes
    rwa [Entry.Precedes, alike.kind, alike.name, alikeNext.kind, alikeNext.name]
  · intro first among second present precedes follows
    obtain ⟨kind, name⟩ := precedes.antisymm follows
    exact List.inj_on_of_nodup_map distinct among present (by rw [kind, name])

/-- Whether an entry can be declared. -/
def Entry.isDeclarable (entry : Entry) : Bool :=
  entry.kind?.isSome

/-- What an entry is declared with, if it can be declared. -/
def Entry.declaredAs (entry : Entry) : Option (Kind × String) :=
  entry.kind?.map fun kind => (kind, entry.name)

/-- The kinds and names of the entries that can be declared are what these are declared with. -/
theorem map_filter_isDeclarable (entries : List Entry) :
    ((entries.filter Entry.isDeclarable).map fun entry => (entry.kind?, entry.name)) =
      (entries.filterMap Entry.declaredAs).map fun declared => (some declared.1, declared.2) := by
  induction entries with
  | nil => rfl
  | cons entry rest inductionHypothesis =>
      cases isKind : entry.kind? with
      | none => simp [Entry.isDeclarable, Entry.declaredAs, isKind, inductionHypothesis]
      | some kind => simp [Entry.isDeclarable, Entry.declaredAs, isKind, inductionHypothesis]

/-- An entry is declared with the kind and the name of its element. -/
theorem Entry.declaredAs_of {element : Value} {entry : Entry}
    (isEntry : Entry.of element = .ok entry) :
    Reference.declaredAs element = entry.declaredAs := by
  obtain ⟨ofKind, named, _⟩ := Entry.of_eq_ok.1 isEntry
  simp [Reference.declaredAs, Entry.declaredAs, ofKind, Group.nameOf, named, Value.text?,
    Except.toOption]

/-- The entries of elements are declared with the kinds and names of these. -/
theorem filterMap_declaredAs {elements : List Value} {entries : List Entry}
    (areEntries : elements.mapM Entry.of = .ok entries) :
    entries.filterMap Entry.declaredAs = elements.filterMap Reference.declaredAs := by
  rw [filterMap_entries areEntries]
  refine List.filterMap_congr fun element among => ?_
  obtain ⟨entry, _, isEntry⟩ :=
    Outcome.exists_matched_right (Outcome.mapM_eq_ok.1 areEntries) among
  rw [isEntry, Entry.declaredAs_of isEntry]
  rfl

/-- Entries that cannot be declared become nothing. -/
theorem entriesParts_filter (declare : Declare Outcome) (path : List String)
    (nested : Table (Outcome (List Part))) (entries : List Entry) :
    entriesParts declare path nested (entries.filter Entry.isDeclarable) =
      entriesParts declare path nested entries := by
  induction entries with
  | nil => rfl
  | cons entry rest inductionHypothesis =>
      cases isKind : entry.kind? with
      | some kind =>
          rw [List.filter_cons_of_pos (by simp [Entry.isDeclarable, isKind]), entriesParts,
            entriesParts, inductionHypothesis]
      | none =>
          rw [List.filter_cons_of_neg (by simp [Entry.isDeclarable, isKind]), inductionHypothesis,
            entriesParts, entryParts, isKind]
          cases entriesParts declare path nested rest <;> rfl

/-- Entries that are alike become the same among groups that become the same. -/
theorem entriesParts_eq_of_alike (writer : StubWriter) (path : List String)
    {nested otherNested : Table (Outcome (List Part))}
    (same : ∀ key, nested.get? key = otherNested.get? key) {entries others : List Entry}
    (alike : List.Forall₂ Entry.AreAlike entries others) :
    entriesParts (declareWith writer) path nested entries =
      entriesParts (declareWith writer) path otherNested others := by
  induction alike with
  | nil => rfl
  | @cons entry other _ _ alike _ inductionHypothesis =>
      have own : entryParts (declareWith writer) path nested entry =
          entryParts (declareWith writer) path otherNested other := by
        rw [entryParts, entryParts, alike.kind, alike.name]
        simp only [declareWith_eq_of_alike writer alike.element, same]
      rw [entriesParts, entriesParts, own, inductionHypothesis]

/-! ## Groups -/

/-- Rearranged elements have entries that, as far as they can be declared, stand for each other one
by one in the order of the file, when no two of them are declared with the same kind and name. -/
theorem exists_orderedEntries {elements others : List Value}
    (rearranged : IsRearranged Reference.AreAlike elements others)
    (distinct : (elements.filterMap declaredAs).Nodup) :
    ∃ entries otherEntries, orderedEntries elements = .ok entries ∧
      orderedEntries others = .ok otherEntries ∧
      List.Forall₂ Entry.AreAlike (entries.filter Entry.isDeclarable)
        (otherEntries.filter Entry.isDeclarable) := by
  obtain ⟨read, otherRead, returns, returnsOthers, alike⟩ := exists_entries rearranged
  have ordered := orderedEntries_eq_ok.2 ⟨read, returns, rfl⟩
  have orderedOthers := orderedEntries_eq_ok.2 ⟨otherRead, returnsOthers, rfl⟩
  have sorted : IsRearranged Entry.AreAlike (read.mergeSort Entry.le)
      (otherRead.mergeSort Entry.le) :=
    (alike.perm_trans (List.mergeSort_perm ..)).trans_perm (List.mergeSort_perm ..).symm
  refine ⟨_, _, ordered, orderedOthers, ?_⟩
  refine forall₂_of_rearranged (sorted.filter fun entry other alike => ?_)
    ((pairwise_orderedEntries ordered).filter _) ((pairwise_orderedEntries orderedOthers).filter _)
    ?_
  · rw [Entry.isDeclarable, Entry.isDeclarable, alike.kind]
  · have declared := (List.mergeSort_perm read Entry.le).filterMap Entry.declaredAs
    rw [filterMap_declaredAs returns] at declared
    rw [map_filter_isDeclarable]
    refine (declared.nodup_iff.2 distinct).map fun first second same => ?_
    simpa [Prod.ext_iff] using same

/-- Rearranged elements make the same parts among groups that become the same. -/
theorem levelParts_eq_of_alike (writer : StubWriter) (path : List String)
    {elements others : List Value} (rearranged : IsRearranged Reference.AreAlike elements others)
    (distinct : (elements.filterMap declaredAs).Nodup)
    {nested otherNested : Table (Outcome (List Part))} (keys : nested.keys.Nodup)
    (otherKeys : otherNested.keys.Nodup)
    (same : ∀ key, nested.get? key = otherNested.get? key) :
    levelParts (declareWith writer) path elements nested =
      levelParts (declareWith writer) path others otherNested := by
  obtain ⟨entries, otherEntries, ordered, orderedOthers, alike⟩ :=
    exists_orderedEntries rearranged distinct
  have sorted : nested.sorted = otherNested.sorted :=
    Table.sorted_eq_of_perm keys (Table.perm_of_get?_eq keys otherKeys same)
  have own := entriesParts_eq_of_alike writer path same alike
  rw [entriesParts_filter, entriesParts_filter] at own
  rw [levelParts, levelParts, ordered, orderedOthers, sorted]
  simp only [liftM, monadLift_self, Outcome.ok_bind, own]

/-- Groups that are alike become the same parts, when no two declarations of a group have the same
kind and name. -/
theorem renderGroup_eq_of_alike (writer : StubWriter) (path : List String) {group other : Group}
    (tidy : group.Tidy) (tidyOther : other.Tidy) (alike : group.AreAlikeGroups other)
    (distinct : group.HasDistinctDeclarations) :
    renderGroup writer path group = renderGroup writer path other := by
  induction group using Group.induction generalizing path other with
  | level name elements groups inductionHypothesis =>
      obtain ⟨otherName, otherElements, otherGroups⟩ := other
      rw [renderGroup, renderGroup, groupParts, groupParts, groupsParts_eq_mapEntries,
        groupsParts_eq_mapEntries]
      refine levelParts_eq_of_alike writer path (alike []) (distinct []) ?_ ?_ fun key => ?_
      · rw [Table.keys_mapEntries]
        exact tidy.nodup_keys
      · rw [Table.keys_mapEntries]
        exact tidyOther.nodup_keys
      · rw [Table.get?_mapEntries, Table.get?_mapEntries]
        have inside : Option.Rel Group.AreAlikeGroups (Table.get? groups key)
          (Table.get? otherGroups key) := alike.get? tidy tidyOther key
        generalize found : Table.get? groups key = first,
          foundOther : Table.get? otherGroups key = second at inside ⊢
        cases inside with
        | none => rfl
        | some alikeInside =>
            exact congrArg some (inductionHypothesis _ (Table.mem_of_get? found) _
              (tidy.inside found) (tidyOther.inside foundOther) alikeInside
              (distinct.inside found))

/-- The Teal file does not depend on order. Modules in another order, whose elements stand in
another order and have their fields and operators in another order, are written to the same lines or
stopped by the same fault, as long as no two elements are declared with the same kind and name. -/
theorem renderLines_eq_of_rearranged (writer : StubWriter) (version : String)
    (modules others : List Value) (rearranged : IsRearranged AreAlikeModules modules others)
    (distinct : ∀ elements,
      selectedElements writer.settings.teal.selection modules = .ok elements →
      (elements.filterMap declaredAs).Nodup) :
    renderLines writer version modules = renderLines writer version others := by
  rw [renderLines, renderLines]
  refine (Group.agrees_ofModules writer.settings.teal.selection rearranged).bind_eq ?_
  rintro _ _ ⟨elements, otherElements, selected, alike, rfl, rfl⟩
  have named : ∀ element ∈ elements, ∃ name, element.field? "name" = some (.text name) := by
    intro element among
    obtain ⟨_, _, alike⟩ := alike.exists_right among
    exact alike.named
  have otherNamed : ∀ other ∈ otherElements, ∃ name, other.field? "name" = some (.text name) := by
    intro other among
    obtain ⟨_, _, alike⟩ := alike.exists_left among
    exact alike.exists_name.imp fun _ => And.right
  have tidy : (elements.foldl Group.put Group.outermost).Tidy :=
    (Group.tidy_empty "").foldl_put named
  have otherTidy : (otherElements.foldl Group.put Group.outermost).Tidy :=
    (Group.tidy_empty "").foldl_put otherNamed
  have distinctInside := Group.hasDistinctDeclarations_foldl_put
    (fun element among => (alike.exists_right among).imp fun _ => And.right)
    (distinct elements selected)
  rw [renderGroup_eq_of_alike writer [] tidy otherTidy (Group.areAlikeGroups_foldl_put alike)
    distinctInside]

/-- Two modules, the elements of one of them, and the fields of a class among these can be
swapped. -/
theorem renderLines_eq_of_swapped :
    let writer : StubWriter := { settings := .default, known := ⟨[]⟩ }
    let element (name type : String) (fields : Table Value) : Value :=
      .record [("name", .text name), ("type", .text type), ("fields", .record fields)]
    let module (space : String) (elements : List Value) : Value :=
      .record [("namespace", .text space), ("elements", .list elements)]
    let mass : String × Value := ("mass", .text "number")
    let angle : String × Value := ("angle", .text "number")
    let get := element "b2d.body.get" "FUNCTION" []
    let modules := [module "b2d" [element "b2d.body" "BASIC_CLASS" [mass, angle], get],
      module "go" [element "go.get" "FUNCTION" []]]
    let others := [module "go" [element "go.get" "FUNCTION" []],
      module "b2d" [get, element "b2d.body" "BASIC_CLASS" [angle, mass]]]
    renderLines writer "1" modules = renderLines writer "1" others := by
  intro writer element module mass angle get modules others
  have alike (name type : String) {fields others : Table Value} (distinct : fields.keys.Nodup)
      (perm : fields.Perm others) :
      AreAlike (element name type fields) (element name type others) := by
    refine ⟨⟨name, rfl⟩, ⟨type, rfl⟩, fun key plain => ?_, fun key mapping => ?_⟩
    · have differs : key ≠ "fields" := by
        rintro rfl
        exact plain (by decide)
      simp [element, Value.field?_record, Table.get?_cons, differs]
    · rcases List.mem_pair.1 mapping with rfl | rfl
      · exact .some (.entries distinct perm)
      · exact .none
  have alikeModules (space : String) {elements others : List Value}
      (rearranged : IsRearranged AreAlike elements others) :
      AreAlikeModules (module space elements) (module space others) :=
    ⟨⟨space, rfl, rfl⟩, elements, others, rfl, rfl, rearranged⟩
  have alikeFunction (name : String) : AreAlike (element name "FUNCTION" [])
      (element name "FUNCTION" []) := alike name "FUNCTION" (by decide) (.refl _)
  have alikeBody := alike "b2d.body" "BASIC_CLASS"
    (show (Table.keys [mass, angle]).Nodup by decide) (.swap angle mass [])
  have rearranged : IsRearranged AreAlikeModules modules others := by
    refine ⟨_, .swap .., .cons (alikeModules "go" ?_) (.cons (alikeModules "b2d" ?_) .nil)⟩
    · exact ⟨_, .refl _, .cons (alikeFunction "go.get") .nil⟩
    · exact ⟨_, .swap .., .cons (alikeFunction "b2d.body.get") (.cons alikeBody .nil)⟩
  have distinct : (selectedElements writer.settings.teal.selection modules).toOption.all
      (fun elements => decide (elements.filterMap declaredAs).Nodup) = true := by decide +kernel
  refine renderLines_eq_of_rearranged writer "1" modules others rearranged
    fun elements selected => ?_
  simpa [selected, Except.toOption] using distinct

end ApiStubs.Teal
