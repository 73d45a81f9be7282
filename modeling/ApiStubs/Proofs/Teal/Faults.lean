import ApiStubs.Proofs.Reference.Documented
import ApiStubs.Proofs.Run
import ApiStubs.Proofs.Teal.Traversal
import ApiStubs.Proofs.Text.Comment
import ApiStubs.Teal.Writing

/-!
# What stops the Teal file

Every documented element has its declaration, or none, but a class that lacks its fields. So

- the way through the groups is stopped by one of the declarations asked for on it
  (`fault_of_groupParts`, by induction over the groups),
- the lines of documented modules are stopped by a class that lacks its fields alone, wherever in
  the groups it stands (`fault_of_renderLines`, `renderLines_ne_ok`), and
- the file is written at the very end, so that nothing is changed when anything stops it
  (`stops_of_writeFile`, `writeFile_eq_error_iff`).
-/

namespace ApiStubs

open ApiStubs.Reference ApiStubs.Value ApiStubs.Types

/-! ## Elements in their groups -/

namespace Reference.Group.IsShownAs

variable {path : List String} {element shown : Value} (appears : IsShownAs path element shown)

include appears

/-- What a documented element appears as is documented. -/
theorem isDocumentedElement (documented : IsDocumentedElement element) :
    IsDocumentedElement shown := by
  obtain ⟨⟨last, namedShown, _⟩, others⟩ := appears
  have offers {key : String} (differs : key ≠ "name") {each : Value → Prop}
      (offered : element.Offers key each) : shown.Offers key each :=
    fun found present => offered found (others key differs ▸ present)
  refine ⟨⟨last, namedShown⟩, others "type" (by decide) ▸ documented.type,
    offers (by decide) documented.description, offers (by decide) documented.parameters,
    offers (by decide) documented.results, offers (by decide) documented.fields,
    offers (by decide) documented.operators, fun isAlias => ?_⟩
  rw [others "type" (by decide)] at isAlias
  obtain ⟨target, found, isText⟩ := documented.target isAlias
  exact ⟨target, (others "alias" (by decide)).trans found, isText⟩

/-- What a class without fields appears as lacks them too. -/
theorem isBareClass {name : String} (bare : IsBareClass name element) :
    ∃ last, IsBareClass last shown := by
  obtain ⟨⟨last, namedShown, _⟩, others⟩ := appears
  exact ⟨last, (others "type" (by decide)).trans bare.type, namedShown,
    (others "fields" (by decide)).trans bare.bare⟩

end Reference.Group.IsShownAs

namespace Teal

/-! ## Declarations -/

/-- The comment of a description that is a text or missing can be made. -/
theorem exists_commentParts {description : Value} (isNullOrText : description.IsNullOr IsText) :
    ∃ parts, commentParts description = .ok parts := by
  obtain ⟨lines, made⟩ := Text.exists_lineComments isNullOrText
  rw [commentParts, made]
  exact ⟨_, rfl⟩

/-- The results behind a signature are written when their types are texts. -/
theorem exists_resultsText {types : List Value} (texts : ∀ type ∈ types, type.IsText) :
    ∃ text, resultsText types = .ok text := by
  rcases types with _ | ⟨first, _ | ⟨second, rest⟩⟩
  · exact ⟨_, rfl⟩
  · exact ⟨_, rfl⟩
  · obtain ⟨contents, read⟩ : ∃ contents,
        (first :: second :: rest).mapM Value.asText = .ok contents :=
      Outcome.exists_mapM_of_each fun type member => by
        obtain ⟨content, rfl⟩ := texts type member
        exact ⟨content, rfl⟩
    simp only [resultsText, read, Outcome.ok_bind]
    exact ⟨_, rfl⟩

/-- The type of a result is a text when that of its slot is. -/
theorem isText_resultType {slot : Slot} (isText : slot.type.IsText) : (resultType slot).IsText := by
  rw [resultType]
  split
  · exact isText_text _
  · exact isText

/-- A class without fields stops its declaration. -/
theorem declareClass_of_bare {writer : StubWriter} {element : Value} {name : String}
    (bare : IsBareClass name element) (fullName : String) :
    declareClass writer element (.text fullName) = .error (.classWithoutFields fullName) := by
  rw [declareClass, require_eq_ok.2 bare.name, Outcome.ok_bind, bare.hasKey, display_text]
  rfl

/-- A class without fields has no declaration. -/
theorem declareWith_of_bare {writer : StubWriter} {element : Value} {name : String}
    (bare : IsBareClass name element) (fullName : String) (isOutermost : Bool) :
    declareWith writer .classType element fullName isOutermost =
      .error (.classWithoutFields fullName) := by
  simp only [declareWith, declare?, declareClass_of_bare bare]
  rfl

/-- A class is declared once its fields and its operators are. -/
theorem declareClass_eq_ok {writer : StubWriter} {element given fullName : Value} {name : String}
    {fields operators : Table Value} {fieldLines operatorLines : List (List Part)}
    (named : element.field? "name" = some (.text name))
    (hasFields : element.field? "fields" = some (.record fields))
    (read : element.get "operators" = .ok given)
    (isTable : given.orElse (.record []) = .record operators)
    (declaredFields : (fields.sorted.mapM fun field =>
      fieldParts writer fullName field.1 field.2) = .ok fieldLines)
    (declaredOperators : (operators.sorted.mapM fun operator =>
      operatorParts writer (.text name) fullName operator.1 operator.2) = .ok operatorLines) :
    declareClass writer element fullName = .ok {
      opening := [.line "", .line ("record " ++ name ++ " is userdata"),
        .block fieldLines.flatten, .block operatorLines.flatten]
      closing := [.line "end"] } := by
  obtain ⟨entries, rfl⟩ := exists_record_of_field? named
  have present : Table.has entries "fields" = true := by
    have found : Table.get? entries "fields" = some (.record fields) := hasFields
    rw [Table.has, found, Option.isSome_some]
  simp only [declareClass, require_eq_ok.2 named, hasKey_record, present, require_eq_ok.2 hasFields,
    sortedFields_record, declaredFields, read, isTable, declaredOperators, Outcome.ok_bind]
  rfl

section Writer

variable {writer : StubWriter}

/-- A documented variable is declared. -/
theorem exists_declareVariable {element : Value} (documented : IsDocumentedElement element) :
    ∃ parts, declareVariable writer element = .ok parts := by
  obtain ⟨name, named⟩ := documented.name
  obtain ⟨description, read, isNullOrText⟩ := documented.exists_get documented.description
  obtain ⟨comment, commented⟩ := exists_commentParts isNullOrText
  rw [declareVariable, read, Outcome.ok_bind, commented, require_eq_ok.2 named]
  exact ⟨_, rfl⟩

variable (shaped : writer.settings.teal.IsShaped) (fills : writer.settings.teal.FillsArrays)

include shaped fills

/-- A documented type has a spelling, which is a text. -/
theorem exists_spellFor {documentedType : Value} (isType : documentedType.IsText)
    (fullName name : String) :
    ∃ type, spellFor writer documentedType (.text fullName) (.text name) = .ok type ∧
      type.IsText := by
  have able : (writer.speller .teal).dialect.CanSpell := shaped.canSpell fills
  exact Speller.exists_spell able (.inl isType) (isText_text fullName)

/-- A documented function is declared, or left undeclared. -/
theorem exists_declareFunction? {element : Value} (documented : IsDocumentedElement element)
    (fullName : String) (isOutermost : Bool) :
    ∃ parts?, declareFunction? writer element (.text fullName) isOutermost = .ok parts? := by
  obtain ⟨name, named⟩ := documented.name
  have shapedHere : (writer.speller .teal).dialect.IsShaped := shaped
  obtain ⟨signature, signed, texts⟩ := exists_ofElement shapedHere fills documented fullName
  obtain ⟨description, read, isNullOrText⟩ := documented.exists_get documented.description
  obtain ⟨comment, commented⟩ := exists_commentParts isNullOrText
  obtain ⟨results, shown⟩ : ∃ text, resultsText (signature.results.map resultType) = .ok text :=
    exists_resultsText (List.forall_mem_map.2 fun slot member =>
      isText_resultType (texts slot (List.mem_append_right _ member)))
  rw [declareFunction?]
  split
  · exact ⟨none, rfl⟩
  · simp only [signed, read, commented, shown, require_eq_ok.2 named, Outcome.ok_bind]
    exact ⟨_, rfl⟩

/-- A documented alias is declared. -/
theorem exists_declareAlias {element : Value} (documented : IsDocumentedElement element)
    (isAlias : element.field? "type" = some (.text "BASIC_ALIAS")) (fullName : String) :
    ∃ parts, declareAlias writer element (.text fullName) = .ok parts := by
  obtain ⟨name, named⟩ := documented.name
  obtain ⟨target, found, isText⟩ := documented.target isAlias
  obtain ⟨type, spelled, _⟩ := exists_spellFor shaped fills isText fullName name
  rw [declareAlias, require_eq_ok.2 named, Outcome.ok_bind, require_eq_ok.2 found, Outcome.ok_bind]
  split
  · exact ⟨_, rfl⟩
  · rw [spelled]
    exact ⟨_, rfl⟩

/-- A field has its parts, whatever it holds. -/
theorem exists_fieldParts (fullName name : String) (raw : Value) :
    ∃ parts, fieldParts writer (.text fullName) name raw = .ok parts := by
  cases raw with
  | text content =>
      obtain ⟨comment, commented⟩ :=
        exists_commentParts (.inr (isText_text (Text.splitField content).2))
      obtain ⟨type, spelled, _⟩ :=
        exists_spellFor shaped fills (isText_text (Text.splitField content).1) fullName name
      simp only [fieldParts, commented, spelled, Outcome.ok_bind]
      exact ⟨_, rfl⟩
  | _ => exact ⟨[], rfl⟩

/-- An operator has its parts. -/
theorem exists_operatorParts (className fullName name : String) {operator : Value}
    (isOperator : IsOperator operator) :
    ∃ parts, operatorParts writer (.text className) (.text fullName) name operator = .ok parts := by
  obtain ⟨result, found, resultIsText⟩ := isOperator.result
  obtain ⟨fields, rfl⟩ := exists_record_of_field? found
  obtain ⟨param, read, isNullOrText⟩ := isOperator.param.exists_get
  obtain ⟨resultType, spelledResult, _⟩ := exists_spellFor shaped fills resultIsText fullName name
  rw [operatorParts, read, Outcome.ok_bind]
  split
  · next given =>
      have paramIsText : param.IsText := by
        rcases isNullOrText with rfl | isText
        · simp [isGiven] at given
        · exact isText
      obtain ⟨paramType, spelledParam, _, rfl⟩ :=
        exists_spellFor shaped fills paramIsText fullName name
      simp only [spelledParam, require_eq_ok.2 found, spelledResult, Outcome.ok_bind, pure_bind]
      exact ⟨_, rfl⟩
  · simp only [require_eq_ok.2 found, spelledResult, Outcome.ok_bind, pure_bind]
    exact ⟨_, rfl⟩

/-- A documented class with fields is declared. -/
theorem exists_declareClass {element : Value} (documented : IsDocumentedElement element)
    {fields : Value} (hasFields : element.field? "fields" = some fields) (fullName : String) :
    ∃ declaration, declareClass writer element (.text fullName) = .ok declaration := by
  obtain ⟨name, named⟩ := documented.name
  obtain ⟨table, rfl, _⟩ := documented.fields fields hasFields
  obtain ⟨operators, read, isNullOrTable⟩ := documented.exists_get documented.operators
  obtain ⟨operatorTable, isTable, areOperators⟩ :=
    isNullOrTable.orElse ⟨[], rfl, fun entry member => nomatch member⟩
  obtain ⟨fieldLines, declaredFields⟩ : ∃ fieldLines, ((Table.sorted table).mapM fun field =>
      fieldParts writer (.text fullName) field.1 field.2) = .ok fieldLines :=
    Outcome.exists_mapM_of_each fun field _ =>
      exists_fieldParts shaped fills fullName field.1 field.2
  obtain ⟨operatorLines, declaredOperators⟩ : ∃ operatorLines,
      ((Table.sorted operatorTable).mapM fun operator => operatorParts writer (.text name)
        (.text fullName) operator.1 operator.2) = .ok operatorLines :=
    Outcome.exists_mapM_of_each fun operator member =>
      exists_operatorParts shaped fills name fullName operator.1
        (areOperators operator (List.mem_mergeSort.1 member))
  exact ⟨_, declareClass_eq_ok named hasFields read isTable declaredFields declaredOperators⟩

/-- A documented element has its declaration, or none, unless it is a class without fields, which
stops it. -/
theorem exists_declareWith_or_bare {element : Value} (documented : IsDocumentedElement element)
    {kind : Kind} (ofKind : Kind.of? element = .ok (some kind)) (fullName : String)
    (isOutermost : Bool) :
    (∃ declared?, declareWith writer kind element fullName isOutermost = .ok declared?) ∨
      (∃ name, IsBareClass name element) ∧
        declareWith writer kind element fullName isOutermost =
          .error (.classWithoutFields fullName) := by
  cases kind with
  | function =>
      obtain ⟨parts?, made⟩ :=
        exists_declareFunction? shaped fills documented fullName isOutermost
      exact .inl ⟨_, Outcome.bind_eq_ok.2 ⟨parts?, made, rfl⟩⟩
  | «variable» =>
      obtain ⟨parts, made⟩ : ∃ parts, declareVariable writer element = .ok parts :=
        exists_declareVariable documented
      exact .inl ⟨_, Outcome.bind_eq_ok.2 ⟨parts, made, rfl⟩⟩
  | aliasType =>
      obtain ⟨parts, made⟩ := exists_declareAlias shaped fills documented
        (documented.type_of_kind ofKind (by decide)) fullName
      exact .inl ⟨_, Outcome.bind_eq_ok.2 ⟨parts, made, rfl⟩⟩
  | classType =>
      cases hasFields : element.field? "fields" with
      | some fields =>
          obtain ⟨declaration, made⟩ :=
            exists_declareClass shaped fills documented hasFields fullName
          exact .inl ⟨_, Outcome.bind_eq_ok.2 ⟨declaration, made, rfl⟩⟩
      | none =>
          obtain ⟨name, named⟩ := documented.name
          have bare : IsBareClass name element :=
            ⟨documented.type_of_kind ofKind (by decide), named, hasFields⟩
          exact .inr ⟨⟨name, bare⟩, declareWith_of_bare bare fullName isOutermost⟩

end Writer

/-! ## The way through the groups -/

/-- A declaration that was asked for and met a fault. -/
def Call.IsRefused (declare : Declare Outcome) (call : Call) (fault : Fault) : Prop :=
  declare call.kind call.element call.fullName call.isOutermost = .error fault

section Groups

variable {declare : Declare Outcome} {path : List String} {fault : Fault}

/-- The fault at an entry is that of its declaration or of a group that it hosts. -/
theorem fault_of_entryParts {nested : Table (Outcome (List Part))} {entry : Entry}
    (stops : entryParts declare path nested entry = .error fault) :
    (∃ call, callOf path entry = some call ∧ call.IsRefused declare fault) ∨
      ∃ key, (key, .error fault) ∈ nested := by
  obtain ⟨kind?, name, element⟩ := entry
  cases kind? with
  | none => exact absurd stops Outcome.pure_ne_error
  | some kind =>
      rcases Outcome.bind_eq_error.1 stops with refused | ⟨declared?, answered, stopsLater⟩
      · exact .inl ⟨_, rfl, refused⟩
      · cases declared? with
        | none => exact absurd stopsLater Outcome.pure_ne_error
        | some declaration =>
            dsimp only at stopsLater
            split at stopsLater
            · next inside found =>
                rcases Outcome.bind_eq_error.1 stopsLater with met | ⟨_, _, handed⟩
                · exact .inr ⟨name, met ▸ Table.mem_of_get? found⟩
                · exact absurd handed Outcome.pure_ne_error
            · exact absurd stopsLater Outcome.pure_ne_error

/-- The fault at several entries is that at one of them. -/
theorem fault_of_entriesParts {nested : Table (Outcome (List Part))} {entries : List Entry}
    (stops : entriesParts declare path nested entries = .error fault) :
    (∃ entry ∈ entries, ∃ call, callOf path entry = some call ∧ call.IsRefused declare fault) ∨
      ∃ key, (key, .error fault) ∈ nested := by
  induction entries with
  | nil => exact absurd stops Outcome.pure_ne_error
  | cons entry rest inductionHypothesis =>
      rcases Outcome.bind_eq_error.1 stops with first | ⟨_, _, stopsLater⟩
      · rcases fault_of_entryParts first with ⟨call, asked, refused⟩ | inside
        · exact .inl ⟨entry, List.mem_cons_self .., call, asked, refused⟩
        · exact .inr inside
      · rcases Outcome.bind_eq_error.1 stopsLater with others | ⟨_, _, handed⟩
        · rcases inductionHypothesis others with ⟨other, among, met⟩ | inside
          · exact .inl ⟨other, List.mem_cons_of_mem _ among, met⟩
          · exact .inr inside
        · exact absurd handed Outcome.pure_ne_error

/-- The fault of a group whose elements have entries is that of one of them or of a group inside
it. -/
theorem fault_of_levelParts {nested : Table (Outcome (List Part))} {elements : List Value}
    (readable : ∀ element ∈ elements, ∃ entry, Entry.of element = .ok entry)
    (stops : levelParts declare path elements nested = .error fault) :
    (∃ element ∈ elements, ∃ entry, Entry.of element = .ok entry ∧
        ∃ call, callOf path entry = some call ∧ call.IsRefused declare fault) ∨
      ∃ key, (key, .error fault) ∈ nested := by
  obtain ⟨unordered, read⟩ := Outcome.exists_mapM_of_each readable
  have ordered : orderedEntries elements = .ok (unordered.mergeSort Entry.le) :=
    orderedEntries_eq_ok.2 ⟨unordered, read, rfl⟩
  have lifted : (liftM (orderedEntries elements) : Outcome (List Entry)) =
      .ok (unordered.mergeSort Entry.le) := ordered
  rw [levelParts, lifted, Outcome.ok_bind] at stops
  rcases Outcome.bind_eq_error.1 stops with stopped | ⟨_, _, stopsLater⟩
  · rcases fault_of_entriesParts stopped with ⟨entry, among, met⟩ | inside
    · obtain ⟨element, member, isEntry⟩ := (mem_orderedEntries ordered).1 among
      exact .inl ⟨element, member, entry, isEntry, met⟩
    · exact .inr inside
  · rcases Outcome.bind_eq_error.1 stopsLater with stopped | ⟨_, _, handed⟩
    · obtain ⟨group, among, met⟩ := Outcome.exists_of_mapM_eq_error stopped
      rcases Outcome.bind_eq_error.1 met with inside | ⟨_, _, handed⟩
      · refine .inr ⟨group.1, inside ▸ ?_⟩
        exact List.mem_mergeSort.1 (List.mem_of_mem_filter among)
      · exact absurd handed Outcome.pure_ne_error
    · exact absurd handed Outcome.pure_ne_error

/-- The way through tidy groups whose elements have entries is stopped by the fault of a declaration
that is asked for. -/
theorem fault_of_groupParts {group : Group} (tidy : group.Tidy)
    (readable : ∀ path inside, group.follow path = .ok inside → ∀ element ∈ inside.elements,
      ∃ entry, Entry.of element = .ok entry)
    (stops : groupParts declare path group = .error fault) :
    ∃ call, IsAskedFor path group call ∧ call.IsRefused declare fault := by
  induction group using Group.induction generalizing path with
  | level name elements groups inductionHypothesis =>
      obtain ⟨_, distinct, _, _, _, tidyInside⟩ := tidy
      rw [groupParts, groupsParts_eq_mapEntries] at stops
      rcases fault_of_levelParts (readable [] _ rfl) stops with
        ⟨element, member, entry, read, call, asked, refused⟩ | ⟨key, inside⟩
      · exact ⟨call, isAskedFor_iff.2 (.inl ⟨element, member, entry, read, asked⟩), refused⟩
      · obtain ⟨⟨_, next⟩, among, same⟩ := List.mem_map.1 inside
        obtain ⟨rfl, stopsInside⟩ := Prod.mk.inj same
        have found := Table.get?_of_mem distinct among
        obtain ⟨call, asked, refused⟩ := inductionHypothesis _ among (tidyInside _ among)
          (fun path inside leads =>
            readable (_ :: path) inside (Group.follow_cons_eq_ok.2 ⟨next, found, leads⟩))
          stopsInside
        exact ⟨call, isAskedFor_iff.2 (.inr ⟨_, next, found, asked⟩), refused⟩

end Groups

/-! ## The file -/

/-- What stops the Teal file of modules on a disk: the selection keeps a class without fields of one
of them, or the file cannot be opened. -/
inductive Stops (writer : StubWriter) (disk : Disk) (modules : List Value) : Fault → Prop
  | bareClass {module : Value} (source : module ∈ modules) {name : String}
      (keeps : KeepsBareClass writer.settings.teal.selection module name) :
      Stops writer disk modules (.classWithoutFields name)
  | refused {path : String} {fault : Fault} (isPath : filePath writer = .ok path)
      (closed : disk.locateFile path = .error fault) : Stops writer disk modules fault

section File

variable {writer : StubWriter} (shaped : writer.settings.teal.IsShaped) {modules : List Value}
  (documented : ∀ module ∈ modules, IsDocumentedModule module)

include shaped documented

/-- The groups of documented modules hold the elements that the selection keeps, all of which are
documented. -/
theorem exists_held : ∃ root selected declared,
    Group.ofModules writer.settings.teal.selection modules = .ok root ∧
    writer.settings.teal.selection.selectAll modules = .ok selected ∧
    elementsOf selected = .ok declared ∧ root.Holds declared ∧
    ∀ element ∈ declared, IsDocumentedElement element := by
  obtain ⟨root, grouped⟩ := Group.exists_ofModules shaped.hasTextStarts fun module member =>
    (documented module member).isModule
  obtain ⟨selected, declared, selects, read, held⟩ := Group.holds_of_ofModules grouped
  refine ⟨root, selected, declared, grouped, selects, read, held, fun element member => ?_⟩
  obtain ⟨module, source, chosen, kept, selectsModule, isRead, inside⟩ :=
    (mem_selected_iff selects read).1 member
  obtain ⟨chosenAgain, keptAgain, selectsAgain, readAgain, each, _⟩ :=
    (documented module source).exists_kept shaped.hasTextStarts
  obtain rfl := Except.ok.inj (selectsModule.symm.trans selectsAgain)
  obtain rfl := Except.ok.inj (isRead.symm.trans readAgain)
  exact each element inside

/-- The lines of documented modules are stopped by nothing but a class that lacks its fields. -/
theorem fault_of_renderLines (fills : writer.settings.teal.FillsArrays) {version : String}
    {fault : Fault} (stops : renderLines writer version modules = .error fault) :
    ∃ module ∈ modules, ∃ name,
      KeepsBareClass writer.settings.teal.selection module name ∧
      fault = .classWithoutFields name := by
  obtain ⟨root, selected, declared, grouped, selects, read, held, documentedAll⟩ :=
    exists_held shaped documented
  rw [renderLines, grouped, Outcome.ok_bind] at stops
  rcases Outcome.bind_eq_error.1 stops with stopped | ⟨_, _, handed⟩
  · have readable : ∀ path inside, root.follow path = .ok inside → ∀ shown ∈ inside.elements,
        ∃ entry, Entry.of shown = .ok entry := by
      intro path inside leads shown member
      obtain ⟨element, among, appears⟩ :=
        Outcome.exists_matched_left (held.elements path inside leads) member
      have shownDocumented :=
        appears.isDocumentedElement (documentedAll element (List.mem_filter.1 among).1)
      obtain ⟨name, named⟩ := shownDocumented.name
      obtain ⟨type, typed⟩ := shownDocumented.type
      rw [Entry.of, kind_of_typed typed, require_eq_ok.2 named]
      exact ⟨_, rfl⟩
    obtain ⟨call, asked, refused⟩ := fault_of_groupParts held.tidy readable stopped
    obtain ⟨element, member, concerns⟩ := exists_concerns held asked
    obtain ⟨path, appears, _⟩ := concerns.shown
    have shownKind : Kind.of? call.element = .ok (some call.kind) :=
      appears.kind_eq.trans concerns.kind
    rcases exists_declareWith_or_bare shaped fills
        (appears.isDocumentedElement (documentedAll element member)) shownKind call.fullName
        call.isOutermost with ⟨_, answered⟩ | ⟨⟨last, bare⟩, isRefused⟩
    · cases answered.symm.trans refused
    · obtain ⟨module, source, chosen, kept, selectsModule, isRead, inside⟩ :=
        (mem_selected_iff selects read).1 member
      have bareElement : IsBareClass call.fullName element :=
        ⟨(appears.others "type" (by decide)).symm.trans bare.type, concerns.fullName,
          (appears.others "fields" (by decide)).symm.trans bare.bare⟩
      refine ⟨module, source, call.fullName,
        ⟨chosen, kept, selectsModule, isRead, element, inside, bareElement⟩, ?_⟩
      exact Except.error.inj (refused.symm.trans isRefused)
  · exact absurd handed Outcome.pure_ne_error

/-- Documented modules have no lines when the selection keeps a class without fields of one of
them. -/
theorem renderLines_ne_ok {module : Value} (source : module ∈ modules) {name : String}
    (keeps : KeepsBareClass writer.settings.teal.selection module name) (version : String)
    (lines : List String) : renderLines writer version modules ≠ .ok lines := by
  intro returns
  obtain ⟨root, selected, declared, grouped, selects, read, held, _⟩ :=
    exists_held shaped documented
  obtain ⟨chosen, kept, selectsModule, isRead, element, inside, bare⟩ := keeps
  have member : element ∈ declared :=
    (mem_selected_iff selects read).2 ⟨module, source, chosen, kept, selectsModule, isRead, inside⟩
  have isClass : Kind.of? element = .ok (some .classType) := by
    rw [kind_of_typed bare.type]
    rfl
  rw [renderLines, grouped, Outcome.ok_bind, Outcome.bind_eq_ok] at returns
  obtain ⟨parts, rendered, _⟩ := returns
  obtain ⟨calls, _, answered, isAsked⟩ :=
    (declarations_asked_for (declareWith writer) held.tidy [] []).2 parts rendered
  obtain ⟨call, asked, kind, concerns⟩ := exists_isAskedFor held member isClass
  obtain ⟨path, appears, _⟩ := concerns.shown
  obtain ⟨last, bareShown⟩ := appears.isBareClass bare
  obtain ⟨_, answer⟩ := answered call ((isAsked call).2 asked)
  rw [kind, declareWith_of_bare bareShown] at answer
  cases answer

section Written

variable (fills : writer.settings.teal.FillsArrays) (isFolder : writer.settings.stubFolder.IsText)
  {version : String}

include fills isFolder

/-- Writing the Teal file of documented modules is ended by what stops the file, and changes nothing
on the disk then. -/
theorem stops_of_writeFile {start finish : Workspace} {fault : Fault}
    (ended : (writeFile writer version modules).perform start = (.error fault, finish)) :
    finish.disk = start.disk ∧ Stops writer start.disk modules fault := by
  obtain ⟨folder, isText⟩ := isFolder
  have isPath : filePath writer = .ok (Path.join folder fileName) := by
    rw [filePath, isText]
    rfl
  rw [writeFile, isPath, Run.perform_bind_eq_error] at ended
  rcases ended with unprinted | ⟨_, announced, isAnnounced, ended⟩
  · exact absurd unprinted Run.perform_print_ne_error
  obtain rfl := Run.perform_print_eq_ok.1 isAnnounced
  rw [Run.ofOutcome_ok_bind, Run.perform_bind_eq_error] at ended
  rcases ended with unrendered | ⟨lines, middle, rendered, unsaved⟩
  · obtain ⟨stops, rfl⟩ := Run.perform_ofOutcome_eq_error.1 unrendered
    obtain ⟨module, source, name, keeps, rfl⟩ :=
      fault_of_renderLines shaped documented fills stops
    exact ⟨rfl, .bareClass source keeps⟩
  · obtain ⟨_, rfl⟩ := Run.perform_ofOutcome_eq_ok.1 rendered
    simp only [Run.perform_bind_eq_error, Run.perform_save_eq_error, Run.perform_print_ne_error,
      Run.perform_pure_ne_error, and_false, or_false, exists_false] at unsaved
    obtain ⟨closed, rfl⟩ := unsaved
    exact ⟨rfl, .refused isPath closed⟩

/-- Writing the Teal file of documented modules is ended by a fault exactly when something stops the
file. -/
theorem writeFile_eq_error_iff (start : Workspace) :
    (∃ fault finish,
        (writeFile writer version modules).perform start = (.error fault, finish)) ↔
      ∃ fault, Stops writer start.disk modules fault := by
  constructor
  · rintro ⟨fault, finish, ended⟩
    exact ⟨fault, (stops_of_writeFile shaped documented fills isFolder ended).2⟩
  · rintro ⟨fault, stops⟩
    cases performed : (writeFile writer version modules).perform start with
    | mk outcome finish =>
        cases outcome with
        | error met => exact ⟨met, finish, rfl⟩
        | ok written =>
            simp only [writeFile, Run.perform_bind_eq_ok, Run.perform_print_eq_ok,
              Run.perform_ofOutcome_eq_ok, Run.perform_save_eq_ok] at performed
            obtain ⟨_, _, rfl, path, _, ⟨isPath, rfl⟩, lines, _, ⟨rendered, rfl⟩, _, _,
              ⟨location, located, _⟩, _⟩ := performed
            cases stops with
            | bareClass source keeps =>
                exact absurd rendered
                  (renderLines_ne_ok shaped documented source keeps version lines)
            | refused isPathAgain closed =>
                obtain rfl := Except.ok.inj (isPath.symm.trans isPathAgain)
                cases located.symm.trans closed

end Written

end File

end Teal

end ApiStubs
