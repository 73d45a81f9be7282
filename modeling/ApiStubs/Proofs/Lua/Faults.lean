import ApiStubs.Proofs.Lua.Header
import ApiStubs.Proofs.Lua.Order
import ApiStubs.Proofs.Lua.Writing
import ApiStubs.Proofs.Reference.Documented

/-!
# What stops the Lua files

Every documented element has its declaration, or none, but a class that lacks its fields. So

- the text of a documented module is stopped by such a class alone, and by the first one in the
  order of its file (`fault_of_moduleText?`, `moduleText?_ne_ok`), and
- a run over documented modules is stopped by such a class or by a file that cannot be opened. What
  it leaves on the disk is what the modules before the one that stops it have left
  (`stops_iff_of_writeFiles`, `exists_of_writeFiles_eq_error`).
-/

namespace ApiStubs.Lua

open ApiStubs.Reference ApiStubs.Reference.Group ApiStubs.Value ApiStubs.Types

/-! ## Elements -/

section Element

variable {element : Value} (documented : IsDocumentedElement element)

include documented

/-- A documented element has texts for its name and its type. -/
theorem isClassified : IsClassified element :=
  ⟨documented.name, documented.type⟩

/-- A documented variable is declared. -/
theorem exists_declareVariable : ∃ text, declareVariable element = .ok text := by
  obtain ⟨name, named⟩ := documented.name
  obtain ⟨description, read, nullOrText⟩ := documented.exists_get documented.description
  obtain ⟨comment, commented⟩ := Text.exists_commentBlock nullOrText Text.declarationMarker
  simp only [declareVariable, read, commented, require_eq_ok.2 named, Outcome.ok_bind, asText]
  exact ⟨_, rfl⟩

/-- The docs of a side of a documented element are texts or missing. -/
theorem exists_docs (side : Side) :
    ∃ texts, docs side element = .ok texts ∧ ∀ doc ∈ texts, doc.IsNullOr IsText := by
  obtain ⟨members, read, each⟩ := documented.exists_documented side
  rw [docs, read, Outcome.ok_bind]
  refine Outcome.exists_mapM fun member among => ?_
  obtain ⟨_, named, _⟩ := (each member among).name
  obtain ⟨fields, rfl⟩ := exists_record_of_field? named
  exact (each _ among).doc.exists_getOr (.inr (isText_text ""))

/-- A documented alias is declared. -/
theorem exists_declareAlias (isAlias : element.field? "type" = some (.text "BASIC_ALIAS")) :
    ∃ text, declareAlias element = .ok text := by
  obtain ⟨name, named⟩ := documented.name
  obtain ⟨target, found, _⟩ := documented.target isAlias
  rw [declareAlias, require_eq_ok.2 named, Outcome.ok_bind, require_eq_ok.2 found]
  exact ⟨_, rfl⟩

/-- A documented class with fields is declared. -/
theorem exists_declareClass (isType : element.field? "type" = some (.text "BASIC_CLASS"))
    {fields : Value} (hasFields : element.field? "fields" = some fields) :
    ∃ text, declareClass element = .ok text := by
  obtain ⟨name, named⟩ := documented.name
  obtain ⟨table, rfl, _⟩ := documented.fields fields hasFields
  have isClass : IsClass name element :=
    ⟨isType, named, ⟨_, hasFields, table, rfl, fun _ _ => trivial⟩, documented.operators⟩
  obtain ⟨others, declared⟩ := isClass.exists_declareClass
  exact ⟨_, declared⟩

end Element

/-- A class without fields is a class. -/
theorem kindOf?_of_bare {element : Value} {name : String} (bare : IsBareClass name element) :
    kindOf? element = some .classType := by
  rw [kindOf?, typeOf, bare.type]
  rfl

/-- A class without fields stands among the elements of a file. -/
theorem mem_fileOrder_of_bare {element : Value} {name : String} (bare : IsBareClass name element)
    (writer : StubWriter) {chosen : List Value} (among : element ∈ chosen) :
    element ∈ fileOrder writer chosen := by
  have emitted : isEmitted writer element = true := by
    rw [isEmitted, kindOf?_of_bare bare]
    rfl
  exact (isFileOrder_fileOrder writer chosen).perm.mem_iff.2 (List.mem_filter.2 ⟨among, emitted⟩)

/-- A class without fields stops its declaration. -/
theorem declareClass_of_bare {element : Value} {name : String} (bare : IsBareClass name element) :
    declareClass element = .error (.classWithoutFields name) := by
  rw [declareClass, require_eq_ok.2 bare.name, Outcome.ok_bind, bare.hasKey, display_text]
  rfl

/-- A class without fields has no declaration. -/
theorem declaration?_of_bare {writer : StubWriter} {element : Value} {name : String}
    (bare : IsBareClass name element) :
    declaration? writer element = .error (.classWithoutFields name) := by
  rw [declaration?_eq (kindOf?_of_bare bare), declare?, declareClass_of_bare bare]
  rfl

/-- The lines of slots are made when the type of each is a text and the docs are texts. -/
theorem exists_describeSlots (line : Slot → Value → Outcome String) {slots : List Slot}
    {docs : List Value} (texts : ∀ slot ∈ slots, slot.type.IsText)
    (docTexts : ∀ doc ∈ docs, doc.IsNullOr IsText)
    (makes : ∀ slot doc, slot.type.IsText → doc.IsNullOr IsText →
      ∃ text, line slot doc = .ok text) :
    ∃ lines, describeSlots line slots docs = .ok lines := by
  refine Outcome.exists_mapM_of_each fun pair member => ?_
  obtain ⟨isSlot, isDoc⟩ := List.of_mem_zip member
  exact makes pair.1 pair.2 (texts _ isSlot) (docTexts _ isDoc)

section Writer

variable {writer : StubWriter} (shaped : writer.settings.lua.IsShaped)
  (fills : writer.settings.lua.FillsArrays)

include shaped fills

/-- A documented function is declared, or left undeclared. -/
theorem exists_declareFunction? {element : Value} (documented : IsDocumentedElement element) :
    ∃ text?, declareFunction? writer element = .ok text? := by
  obtain ⟨name, named⟩ := documented.name
  have shapedHere : (writer.speller .lua).dialect.IsShaped := shaped
  obtain ⟨signature, signed, texts⟩ := exists_ofElement shapedHere fills documented name
  obtain ⟨textParameters, textResults⟩ := List.forall_mem_append.1 texts
  obtain ⟨description, read, nullOrText⟩ := documented.exists_get documented.description
  obtain ⟨comment, commented⟩ := Text.exists_commentBlock nullOrText Text.declarationMarker
  obtain ⟨parameterDocs, readParameters, parameterTexts⟩ := exists_docs documented .argument
  obtain ⟨resultDocs, readResults, resultTexts⟩ := exists_docs documented .result
  obtain ⟨parameterLines, describedParameters⟩ :=
    exists_describeSlots parameterLine textParameters parameterTexts
      fun slot doc _ isDoc => by
        obtain ⟨tail, isTail⟩ := Text.exists_commentTail isDoc Text.declarationMarker
        rw [parameterLine, isTail]
        exact ⟨_, rfl⟩
  obtain ⟨resultLines, describedResults⟩ :=
    exists_describeSlots resultLine textResults resultTexts
      fun slot doc isText isDoc => by
        obtain ⟨type, isType⟩ := isText
        obtain ⟨tail, isTail⟩ := Text.exists_commentTail isDoc Text.declarationMarker
        rw [resultLine, isTail, isType]
        exact ⟨_, rfl⟩
  rw [declareFunction?, require_eq_ok.2 named, Outcome.ok_bind]
  split
  · exact ⟨none, rfl⟩
  · simp only [signed, read, commented, readParameters, describedParameters, readResults,
      describedResults, Outcome.ok_bind]
    exact ⟨_, rfl⟩

/-- A documented element has its declaration, or none, unless it is a class without fields, which
stops it. -/
theorem exists_declaration?_or_bare {element : Value} (documented : IsDocumentedElement element) :
    (∃ declared?, declaration? writer element = .ok declared?) ∨
      ∃ name, IsBareClass name element ∧
        declaration? writer element = .error (.classWithoutFields name) := by
  cases ofKind : kindOf? element with
  | none => exact .inl ⟨none, by rw [declaration?, ofKind]⟩
  | some kind =>
      have isKind : Kind.of? element = .ok (some kind) :=
        ofKind ▸ (isClassified documented).kind_eq
      have declares (text? : Option String) (made : declare? writer kind element = .ok text?) :
          ∃ declared?, declaration? writer element = .ok declared? := by
        rw [declaration?_eq ofKind, made]
        exact ⟨_, rfl⟩
      cases kind with
      | function =>
          obtain ⟨text?, made⟩ := exists_declareFunction? shaped fills documented
          exact .inl (declares text? made)
      | «variable» =>
          obtain ⟨text, made⟩ := exists_declareVariable documented
          exact .inl (declares (some text) (by rw [declare?, made]; rfl))
      | aliasType =>
          have isAlias : element.field? "type" = some (.text "BASIC_ALIAS") :=
            documented.type_of_kind isKind (by decide)
          obtain ⟨text, made⟩ := exists_declareAlias documented isAlias
          exact .inl (declares (some text) (by rw [declare?, made]; rfl))
      | classType =>
          have isType : element.field? "type" = some (.text "BASIC_CLASS") :=
            documented.type_of_kind isKind (by decide)
          cases hasFields : element.field? "fields" with
          | some fields =>
              obtain ⟨text, made⟩ := exists_declareClass documented isType hasFields
              exact .inl (declares (some text) (by rw [declare?, made]; rfl))
          | none =>
              obtain ⟨name, named⟩ := documented.name
              have bare : IsBareClass name element := ⟨isType, named, hasFields⟩
              exact .inr ⟨name, bare, declaration?_of_bare bare⟩

/-! ## Modules -/

omit shaped fills in
/-- The selected part of a documented module has a header. -/
theorem exists_moduleHeader {module selected : Value} (documented : IsDocumentedModule module)
    (selects : writer.settings.lua.selection.select module = .ok selected)
    (agree : module.AgreeBut ["elements"] selected) (version : String) :
    ∃ top, moduleHeader writer version module = .ok top := by
  obtain ⟨title, hasTitle, titleIsText⟩ := documented.brief
  obtain ⟨space, named⟩ := documented.space
  obtain ⟨fields, rfl⟩ := exists_record_of_field? named
  obtain ⟨description, read, descriptionIsText⟩ := documented.description.exists_get
  obtain ⟨titleText, isTitle⟩ := Text.exists_plain (.inr titleIsText)
  obtain ⟨descriptionText, isDescription⟩ := Text.exists_plain descriptionIsText
  obtain ⟨block?, isMore, _⟩ := exists_headerMore titleIsText isTitle isDescription
  rw [moduleHeader, selects, Outcome.ok_bind, ← agree.require_eq (by decide),
    ← agree.get_eq (by decide), require_eq_ok.2 hasTitle, read]
  exact ⟨_, header_eq isTitle isMore⟩

omit shaped fills in
/-- The elements of a file are elements of the module. -/
theorem mem_of_mem_fileOrder {chosen : List Value} {element : Value}
    (among : element ∈ fileOrder writer chosen) : element ∈ chosen :=
  (List.mem_filter.1 ((isFileOrder_fileOrder writer chosen).perm.mem_iff.1 among)).1

section Module

variable {module : Value} (documented : IsDocumentedModule module) (version : String)

include documented

/-- The file of a documented module is stopped by nothing but a class that lacks its fields. -/
theorem fault_of_moduleText? {fault : Fault}
    (stops : moduleText? writer version module = .error fault) :
    ∃ name, KeepsBareClass writer.settings.lua.selection module name ∧
      fault = .classWithoutFields name := by
  obtain ⟨selected, kept, selects, members, documentedKept, agree⟩ :=
    documented.exists_kept shaped.hasTextStarts
  obtain ⟨space, named⟩ := documented.space
  obtain ⟨top, isTop⟩ := exists_moduleHeader documented selects agree version
  have classified : ∀ element ∈ kept, IsClassified element :=
    fun element among => isClassified (documentedKept element among)
  rw [moduleText?_eq selects members classified named, wrapper?_eq selects members classified named,
    moduleDeclarations_eq selects members classified, Outcome.ok_bind, Outcome.bind_eq_error]
    at stops
  rcases stops with undeclared | ⟨declared, _, unfinished⟩
  · rcases Outcome.bind_eq_error.1 undeclared with stopped | ⟨_, _, handed⟩
    · obtain ⟨element, among, met⟩ := Outcome.exists_of_mapM_eq_error stopped
      have present := mem_of_mem_fileOrder among
      rcases exists_declaration?_or_bare shaped fills (documentedKept element present) with
        ⟨_, declares⟩ | ⟨name, bare, refused⟩
      · cases declares.symm.trans met
      · refine ⟨name, ⟨selected, kept, selects, members, element, present, bare⟩, ?_⟩
        exact Except.error.inj (met.symm.trans refused)
    · exact absurd handed Outcome.pure_ne_error
  · rw [isTop] at unfinished
    split at unfinished <;> cases unfinished

omit fills

/-- A documented module that keeps a class without fields has no file. -/
theorem moduleText?_ne_ok {name : String}
    (keeps : KeepsBareClass writer.settings.lua.selection module name) (text? : Option String) :
    moduleText? writer version module ≠ .ok text? := by
  intro returns
  obtain ⟨selected, kept, selects, members, element, among, bare⟩ := keeps
  obtain ⟨chosen, all, selectsAgain, membersAgain, documentedKept, _⟩ :=
    documented.exists_kept shaped.hasTextStarts
  obtain rfl := Except.ok.inj (selects.symm.trans selectsAgain)
  obtain rfl := Except.ok.inj (members.symm.trans membersAgain)
  obtain ⟨space, named⟩ := documented.space
  have classified : ∀ element ∈ kept, IsClassified element :=
    fun element among => isClassified (documentedKept element among)
  rw [moduleText?_eq selects members classified named, wrapper?_eq selects members classified named,
    moduleDeclarations_eq selects members classified, Outcome.ok_bind,
    Outcome.bind_eq_ok] at returns
  obtain ⟨_, areDeclared, _⟩ := returns
  obtain ⟨_, read, _⟩ := Outcome.bind_eq_ok.1 areDeclared
  obtain ⟨_, _, declares⟩ :=
    Outcome.exists_matched_right (Outcome.mapM_eq_ok.1 read)
      (mem_fileOrder_of_bare bare writer among)
  cases declares.symm.trans (declaration?_of_bare bare)

end Module

end Writer

/-! ## Runs -/

/-- The file of a module that declares something cannot be opened on a disk. -/
def IsRefused (writer : StubWriter) (version : String) (disk : Disk) (module : Value)
    (fault : Fault) : Prop :=
  ∃ text space path, moduleText? writer version module = .ok (some text) ∧
    module.field? "namespace" = some (.text space) ∧ filePath writer space = .ok path ∧
    disk.locateFile path = .error fault

/-- Whether the file of a module can be opened depends on the folders alone. -/
theorem IsRefused.of_folders {writer : StubWriter} {version : String} {disk other : Disk}
    {module : Value} {fault : Fault} (refused : IsRefused writer version disk module fault)
    (same : other.folders = disk.folders) :
    ∃ found, IsRefused writer version other module found := by
  obtain ⟨text, space, path, made, named, isPath, closed⟩ := refused
  cases located : other.locateFile path with
  | error found => exact ⟨found, text, space, path, made, named, isPath, located⟩
  | ok location => cases closed.symm.trans (Disk.locateFile_of_folders same.symm located)

/-- What stops the file of a module on a disk: the selection keeps a class without fields of the
module, or the module declares something and its file cannot be opened. -/
inductive Stops (writer : StubWriter) (version : String) (disk : Disk) (module : Value) :
    Fault → Prop
  | bareClass {name : String} (keeps : KeepsBareClass writer.settings.lua.selection module name) :
      Stops writer version disk module (.classWithoutFields name)
  | refused {fault : Fault} (refused : IsRefused writer version disk module fault) :
      Stops writer version disk module fault

/-- Making the text of a documented module is ended by the fault of the text alone. -/
theorem fault_of_renderModule {writer : StubWriter} {version : String} {module : Value}
    (documented : IsDocumentedModule module) {start finish : Workspace} {fault : Fault}
    (ended : (renderModule writer version module).perform start = (.error fault, finish)) :
    moduleText? writer version module = .error fault ∧ start = finish := by
  obtain ⟨space, named⟩ := documented.space
  rw [renderModule, Run.perform_bind_eq_error] at ended
  rcases ended with stopped | ⟨text?, middle, _, unannounced⟩
  · exact Run.perform_ofOutcome_eq_error.1 stopped
  · rw [require_eq_ok.2 named] at unannounced
    cases text? <;> cases congrArg Prod.fst unannounced

section Runs

variable {writer : StubWriter} (shaped : writer.settings.lua.IsShaped)
  (fills : writer.settings.lua.FillsArrays) (isFolder : writer.settings.stubFolder.IsText)
  {version : String}

include shaped fills isFolder

/-- Writing the file of a documented module is ended by what stops the module, and changes no file
then. -/
theorem stops_of_writeModule {module : Value} (documented : IsDocumentedModule module)
    {written : Table String} {start finish : Workspace} {fault : Fault}
    (ended : (writeModule writer version written module).perform start = (.error fault, finish)) :
    finish.disk = start.disk ∧ Stops writer version start.disk module fault := by
  obtain ⟨space, named⟩ := documented.space
  obtain ⟨folder, isText⟩ := isFolder
  have isPath : filePath writer space = .ok (Path.join folder (space ++ ".lua")) := by
    rw [filePath, isText]
    rfl
  have isSpace : (module.require "namespace").bind Value.asText = .ok space := by
    rw [require_eq_ok.2 named]
    rfl
  rw [writeModule, Run.perform_bind_eq_error] at ended
  rcases ended with unmade | ⟨text?, middle, rendered, unsaved⟩
  · obtain ⟨untold, rfl⟩ := fault_of_renderModule documented unmade
    obtain ⟨name, keeps, rfl⟩ := fault_of_moduleText? shaped fills documented version untold
    exact ⟨rfl, .bareClass keeps⟩
  · obtain ⟨made, same⟩ := renderModule_returns rendered
    cases text? with
    | none => exact absurd unsaved Run.perform_pure_ne_error
    | some text =>
        simp only [isSpace, isPath, Run.ofOutcome_ok_bind, Run.perform_bind_eq_error,
          Run.perform_save_eq_error, Run.perform_pure_ne_error, and_false, or_false,
          exists_false] at unsaved
        obtain ⟨closed, rfl⟩ := unsaved
        rw [same] at closed
        exact ⟨same, .refused ⟨text, space, _, made, named, isPath, closed⟩⟩

/-- A run over documented modules is ended by the first module that something stops, and leaves what
a run over the modules before it leaves. -/
theorem exists_of_writeFiles_eq_error {modules : List Value}
    (documented : ∀ module ∈ modules, IsDocumentedModule module) {start finish : Workspace}
    {fault : Fault}
    (ended : (writeFiles writer version modules).perform start = (.error fault, finish)) :
    ∃ before module after written left, modules = before ++ module :: after ∧
      (writeFiles writer version before).perform start = (.ok written, left) ∧
      finish.disk = left.disk ∧ Stops writer version left.disk module fault := by
  rw [writeFiles, Run.perform_bind_eq_error] at ended
  rcases ended with unprinted | ⟨_, announced, isAnnounced, ended⟩
  · exact absurd unprinted Run.perform_print_ne_error
  rcases Run.perform_bind_eq_error.1 ended with stopped | ⟨_, _, _, unended⟩
  · obtain ⟨before, module, after, written, left, rfl, returns, own⟩ :=
      Run.exists_step_of_foldlM_eq_error stopped
    obtain ⟨same, stops⟩ := stops_of_writeModule shaped fills isFolder
      (documented module (by simp)) own
    have ends : (writeFiles writer version before).perform start = (.ok written,
        { left with printed := left.printed ++ ["-- Annotations Generated Successfully!\n"] }) := by
      simp only [writeFiles, Run.perform_bind_eq_ok, Run.perform_print_eq_ok,
        Run.perform_pure_eq_ok]
      exact ⟨(), announced, Run.perform_print_eq_ok.1 isAnnounced, written, left, returns, (), _,
        rfl, rfl, rfl⟩
    exact ⟨before, module, after, written, _, rfl, ends, same, stops⟩
  · simp only [Run.perform_bind_eq_error, Run.perform_print_ne_error, Run.perform_pure_ne_error,
      and_false, or_false, exists_false] at unended

omit fills isFolder in
/-- A module that something stops has no file written. -/
theorem Stops.not_written {module : Value} (documented : IsDocumentedModule module)
    {disk : Disk} {fault : Fault} (stops : Stops writer version disk module fault)
    {written next : Table String} {start finish : Workspace}
    (same : start.disk.folders = disk.folders) :
    (writeModule writer version written module).perform start ≠ (.ok next, finish) := by
  intro returns
  have returned := writeModule_returns returns
  cases stops with
  | bareClass keeps =>
      rcases returned with ⟨made, _⟩ | ⟨_, _, made, _⟩ <;>
        exact moduleText?_ne_ok shaped documented version keeps _ made
  | refused refused =>
      obtain ⟨text, space, path, made, named, isPath, closed⟩ := refused
      rcases returned with ⟨silent, _⟩ | ⟨_, location, _, leads, _⟩
      · cases made.symm.trans silent
      · obtain ⟨_, _, _, _, namedAgain, isPathAgain, located⟩ := leads.of_folders same.symm
        obtain rfl := Value.text.inj (Option.some.inj (named.symm.trans namedAgain))
        obtain rfl := Except.ok.inj (isPath.symm.trans isPathAgain)
        cases closed.symm.trans located

/-- A run over documented modules is ended by a fault exactly when something stops one of them. -/
theorem writeFiles_eq_error_iff {modules : List Value}
    (documented : ∀ module ∈ modules, IsDocumentedModule module) (start : Workspace) :
    (∃ fault finish,
        (writeFiles writer version modules).perform start = (.error fault, finish)) ↔
      ∃ module ∈ modules, ∃ fault, Stops writer version start.disk module fault := by
  constructor
  · rintro ⟨fault, finish, ended⟩
    obtain ⟨before, module, after, written, left, rfl, returns, _, stops⟩ :=
      exists_of_writeFiles_eq_error shaped fills isFolder documented ended
    have folders : start.disk.folders = left.disk.folders := by
      simp only [writeFiles, Run.perform_bind_eq_ok, Run.perform_print_eq_ok,
        Run.perform_pure_eq_ok] at returns
      obtain ⟨_, announced, rfl, _, ended, run, _, _, rfl, _, rfl⟩ := returns
      exact (writeModules_returns run).1.symm
    refine ⟨module, by simp, ?_⟩
    cases stops with
    | bareClass keeps => exact ⟨_, .bareClass keeps⟩
    | refused refused =>
        obtain ⟨found, refusedFirst⟩ := refused.of_folders folders
        exact ⟨found, .refused refusedFirst⟩
  · rintro ⟨module, among, fault, stops⟩
    cases performed : (writeFiles writer version modules).perform start with
    | mk outcome finish =>
        cases outcome with
        | error met => exact ⟨met, finish, rfl⟩
        | ok written =>
            simp only [writeFiles, Run.perform_bind_eq_ok, Run.perform_print_eq_ok,
              Run.perform_pure_eq_ok] at performed
            obtain ⟨_, _, rfl, _, _, run, _⟩ := performed
            obtain ⟨before, reached, middle, next, later, _, first, own⟩ :=
              Run.exists_step_of_foldlM run among
            exact absurd own
              (stops.not_written shaped (documented module among) (writeModules_returns first).1)

end Runs

end ApiStubs.Lua
