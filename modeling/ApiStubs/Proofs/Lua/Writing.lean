import ApiStubs.Lua.Writing
import ApiStubs.Proofs.Disk
import ApiStubs.Proofs.Reference.Placement
import ApiStubs.Proofs.Run
import ApiStubs.Settings.Default
import Mathlib.Data.List.ReduceOption

/-!
# What is in the Lua files

The file of a module holds every declaration of the module, and it is written whole. Modules of one
namespace share a file, so what stays is what the last of them was written as.

- `includes_of_moduleText` says that the text of a module holds its declarations.
- `writeModules_returns` says that writing modules changes the files that they lead to and no
  others.
- `file_holds_last_module` says that after a run the file of a namespace holds the declarations of
  the last module of that namespace.
- `file_loses_first_module` shows two modules of one namespace, the first of which is lost.
-/

namespace ApiStubs.Lua

open ApiStubs.Reference

/-! ## Declarations in the text of a module -/

/-- A declaration of a module: that of an element which the selection keeps. -/
def IsDeclarationOf (writer : StubWriter) (module : Value) (declaration : String) : Prop :=
  ∃ selected elements, writer.settings.lua.selection.select module = .ok selected ∧
    membersOf selected = .ok elements ∧ ∃ element ∈ elements, ∃ kind,
      Kind.of? element = .ok (some kind) ∧ declare? writer kind element = .ok (some declaration)

/-- What is declared of an entry is among the declarations. -/
theorem mem_declarations {writer : StubWriter} {entries : List Entry}
    {declared : List (Kind × String)} (returns : declarations writer entries = .ok declared)
    {entry : Entry} (member : entry ∈ entries) {text : String}
    (made : declare? writer entry.kind entry.element = .ok (some text)) :
    (entry.kind, text) ∈ declared := by
  induction entries generalizing declared with
  | nil => simp at member
  | cons first rest inductionHypothesis =>
      simp only [declarations, Outcome.bind_eq_ok, Outcome.pure_eq_ok] at returns
      obtain ⟨text?, own, others, later, rfl⟩ := returns
      rcases List.mem_cons.1 member with rfl | among
      · obtain rfl := Except.ok.inj (own.symm.trans made)
        simp
      · exact List.mem_append_right _ (inductionHypothesis later among)

/-- Every declaration is held by the joined ones. -/
theorem includes_joinDeclarations {declared : List (Kind × String)} {kind : Kind} {text : String}
    (member : (kind, text) ∈ declared) :
    Text.includes (joinDeclarations declared) text = true := by
  induction declared with
  | nil => simp at member
  | cons first rest inductionHypothesis =>
      obtain ⟨firstKind, firstText⟩ := first
      cases rest with
      | nil =>
          obtain ⟨rfl, rfl⟩ := Prod.mk.inj (List.mem_singleton.1 member)
          exact Text.includes_self _
      | cons second others =>
          rw [joinDeclarations]
          rcases List.mem_cons.1 member with isFirst | later
          · obtain ⟨rfl, rfl⟩ := Prod.mk.inj isFirst
            exact Text.includes_append_right
              (Text.includes_append_right (Text.includes_self text) _) _
          · exact Text.includes_append_left _ (inductionHypothesis later)

/-- What declarations hold is held by the table of a namespace around them. -/
theorem includes_wrapNamespace (name : String) {body part : String}
    (held : Text.includes body part = true) :
    Text.includes (wrapNamespace name body) part = true := by
  unfold wrapNamespace
  apply Text.includes_append_right
  apply Text.includes_append_right
  apply Text.includes_append_left
  exact held

/-- Every declarable element has an entry. -/
theorem exists_mem_orderedEntries {declarable : List (Kind × Value)} {entries : List Entry}
    (ordered : orderedEntries declarable = .ok entries) {kind : Kind} {element : Value}
    (member : (kind, element) ∈ declarable) :
    ∃ entry ∈ entries, entry.kind = kind ∧ entry.element = element := by
  obtain ⟨read, returns, sorted⟩ := Outcome.bind_eq_ok.1 ordered
  obtain ⟨entry, present, made⟩ :=
    Outcome.exists_matched_right (Outcome.mapM_eq_ok.1 returns) member
  obtain ⟨name, _, rfl⟩ := by simpa only [Outcome.bind_eq_ok, Outcome.pure_eq_ok] using made
  rw [Entry.sort] at sorted
  split at sorted
  · obtain rfl := Except.ok.inj sorted
    exact ⟨_, List.mem_mergeSort.2 present, rfl, rfl⟩
  · cases sorted

/-- The text of a module holds its declarations. -/
theorem includes_of_moduleText {writer : StubWriter} {version : String} {module : Value}
    {text : String} (returns : moduleText? writer version module = .ok (some text))
    {declaration : String} (isDeclaration : IsDeclarationOf writer module declaration) :
    Text.includes text declaration = true := by
  obtain ⟨selected, elements, selects, read, element, member, kind, isKind, made⟩ := isDeclaration
  obtain ⟨value, found, isRead⟩ := Outcome.bind_eq_ok.1 read
  simp only [moduleText?, selects, found, isRead, Outcome.bind_eq_ok, Outcome.ok_bind] at returns
  obtain ⟨space, _, declarable, ofElements, isWrapped, _, entries, ordered, declared, areDeclared,
    returns⟩ := returns
  have isEntry : (kind, element) ∈ declarable.reduceOption := by
    obtain ⟨shown, present, made⟩ :=
      Outcome.exists_matched_right (Outcome.mapM_eq_ok.1 ofElements) member
    rw [Entry.of?, isKind] at made
    obtain rfl := Except.ok.inj made
    exact List.reduceOption_mem_iff.2 present
  obtain ⟨entry, among, rfl, rfl⟩ := exists_mem_orderedEntries ordered isEntry
  have held := includes_joinDeclarations (mem_declarations areDeclared among made)
  split at returns
  · cases returns
  · simp only [Outcome.bind_eq_ok, Outcome.pure_eq_ok] at returns
    obtain ⟨brief, _, description, _, top, _, written⟩ := returns
    obtain rfl := Option.some.inj written
    refine Text.includes_append_right (Text.includes_append_left _ ?_) "\n"
    split
    · exact includes_wrapNamespace _ held
    · exact held

/-! ## Files after a run -/

/-- A module leads to the file at a location: it has a text, and its namespace gives the path. -/
def LeadsTo (writer : StubWriter) (version : String) (disk : Disk) (module : Value)
    (location : Location) : Prop :=
  ∃ text space path, moduleText? writer version module = .ok (some text) ∧
    module.field? "namespace" = some (.text space) ∧ filePath writer space = .ok path ∧
    disk.locateFile path = .ok location

/-- Making the text of a module changes no file. -/
theorem renderModule_returns {writer : StubWriter} {version : String} {module : Value}
    {text? : Option String} {start finish : Workspace}
    (returns : (renderModule writer version module).perform start = (.ok text?, finish)) :
    moduleText? writer version module = .ok text? ∧ finish.disk = start.disk := by
  simp only [renderModule, Run.perform_bind_eq_ok, Run.perform_ofOutcome_eq_ok] at returns
  obtain ⟨made?, _, ⟨made, rfl⟩, returns⟩ := returns
  split at returns
  · simp only [Run.perform_bind_eq_ok, Run.perform_ofOutcome_eq_ok, Run.perform_print_eq_ok,
      Run.perform_pure_eq_ok] at returns
    obtain ⟨_, _, ⟨_, rfl⟩, _, _, rfl, rfl, rfl⟩ := returns
    exact ⟨made, rfl⟩
  · obtain ⟨rfl, rfl⟩ := Run.perform_pure_eq_ok.1 returns
    exact ⟨made, rfl⟩

/-- Writing a module without a text changes no file. Writing any other writes its text to the file
that it leads to. -/
theorem writeModule_returns {writer : StubWriter} {version : String} {written next : Table String}
    {module : Value} {start finish : Workspace}
    (returns : (writeModule writer version written module).perform start = (.ok next, finish)) :
    moduleText? writer version module = .ok none ∧ finish.disk = start.disk ∨
      ∃ text location, moduleText? writer version module = .ok (some text) ∧
        LeadsTo writer version start.disk module location ∧
        finish.disk = start.disk.put location text := by
  rw [writeModule, Run.perform_bind_eq_ok] at returns
  obtain ⟨text?, middle, rendered, returns⟩ := returns
  obtain ⟨made, sameDisk⟩ := renderModule_returns rendered
  cases text? with
  | none =>
      obtain ⟨_, rfl⟩ := Run.perform_pure_eq_ok.1 returns
      exact .inl ⟨made, sameDisk⟩
  | some text =>
      simp only [Run.perform_bind_eq_ok, Run.perform_ofOutcome_eq_ok, Run.perform_save_eq_ok,
        Run.perform_pure_eq_ok] at returns
      obtain ⟨space, _, ⟨named, rfl⟩, path, _, ⟨leads, rfl⟩, _, _, ⟨location, located, rfl⟩, _,
        rfl⟩ := returns
      obtain ⟨value, found, isText⟩ := Outcome.bind_eq_ok.1 named
      rw [Value.require_eq_ok] at found
      rw [Value.asText_eq_ok] at isText
      rw [sameDisk] at located
      refine .inr ⟨text, location, made, ⟨text, space, path, made, ?_, leads, located⟩, ?_⟩
      · rw [found, isText]
      · rw [← sameDisk]

/-- What a module leads to depends on the folders alone. -/
theorem LeadsTo.of_folders {writer : StubWriter} {version : String} {disk other : Disk}
    {module : Value} {location : Location} (leads : LeadsTo writer version disk module location)
    (same : other.folders = disk.folders) : LeadsTo writer version other module location := by
  obtain ⟨text, space, path, made, named, isPath, located⟩ := leads
  exact ⟨text, space, path, made, named, isPath, Disk.locateFile_of_folders same located⟩

/-- Writing modules makes no folder, and changes no file that none of them leads to. -/
theorem writeModules_returns {writer : StubWriter} {version : String}
    {written result : Table String} {modules : List Value} {start finish : Workspace}
    (returns : (modules.foldlM (writeModule writer version) written).perform start =
      (.ok result, finish)) :
    finish.disk.folders = start.disk.folders ∧
      ∀ location, (∀ module ∈ modules, ¬ LeadsTo writer version start.disk module location) →
        finish.disk.contentAt? location = start.disk.contentAt? location := by
  induction modules generalizing written start with
  | nil =>
      obtain ⟨_, rfl⟩ := Run.perform_pure_eq_ok.1 returns
      exact ⟨rfl, fun _ _ => rfl⟩
  | cons module rest inductionHypothesis =>
      rw [List.foldlM_cons, Run.perform_bind_eq_ok] at returns
      obtain ⟨next, middle, first, later⟩ := returns
      obtain ⟨folders, unchanged⟩ := inductionHypothesis later
      obtain ⟨made, same⟩ | ⟨text, place, made, leads, put⟩ := writeModule_returns first
      · rw [same] at folders unchanged
        exact ⟨folders, fun location none => unchanged location (List.forall_mem_cons.1 none).2⟩
      · have sameFolders : middle.disk.folders = start.disk.folders := by
          rw [put]
          rfl
        refine ⟨folders.trans sameFolders, fun location none => ?_⟩
        obtain ⟨elsewhere, others⟩ := List.forall_mem_cons.1 none
        have differs : location ≠ place := by
          rintro rfl
          exact elsewhere leads
        rw [unchanged location fun other member leadsThere =>
          others other member (leadsThere.of_folders sameFolders.symm), put,
          Disk.contentAt?_put_of_ne differs]

/-- The file name of a namespace. -/
theorem getLast?_names_of_filePath {writer : StubWriter} {space path : String}
    (isPath : filePath writer space = .ok path) (unstroked : '/' ∉ space.toList) {disk : Disk}
    {location : Location} (located : disk.locateFile path = .ok location) :
    location.names.getLast? = some (space ++ ".lua") := by
  obtain ⟨folder, _, rfl⟩ := by
    simpa only [filePath, Outcome.bind_eq_ok, Outcome.pure_eq_ok] using isPath
  have differs {other : String} (short : other.length < 4) : space ++ ".lua" ≠ other := by
    intro same
    have lengths := congrArg String.length same
    rw [String.length_append, show ".lua".length = 4 by decide] at lengths
    omega
  have unstrokedFile : '/' ∉ (space ++ ".lua").toList := by
    simpa using unstroked
  exact Disk.getLast?_names_of_locateFile unstrokedFile (differs (by decide))
    (differs (by decide)) (differs (by decide)) located

/-- After a run that returns, the file of a namespace is the text of the last module of that
namespace that has one, and holds every declaration of that module. No namespace may hold a stroke,
which would lead out of the folder of the stubs. -/
theorem file_holds_last_module (writer : StubWriter) (version : String) (modules : List Value)
    (start finish : Workspace) (written : Table String)
    (returns : (writeFiles writer version modules).perform start = (.ok written, finish))
    (unstroked : ∀ module ∈ modules, ∀ space,
      module.field? "namespace" = some (.text space) → '/' ∉ space.toList)
    (earlier later : List Value) (module : Value) (space text : String)
    (listed : modules = earlier ++ module :: later)
    (named : module.field? "namespace" = some (.text space))
    (made : moduleText? writer version module = .ok (some text))
    (last : ∀ other ∈ later, other.field? "namespace" = some (.text space) →
      moduleText? writer version other = .ok none) :
    ∃ path, filePath writer space = .ok path ∧ finish.disk.readFile path = .ok text ∧
      ∀ declaration, IsDeclarationOf writer module declaration →
        Text.includes text declaration = true := by
  simp only [writeFiles, Run.perform_bind_eq_ok, Run.perform_print_eq_ok,
    Run.perform_pure_eq_ok] at returns
  obtain ⟨_, announced, rfl, _, ended, run, _, _, rfl, _, rfl⟩ := returns
  rw [listed, List.foldlM_append, Run.perform_bind_eq_ok] at run
  obtain ⟨_, before, _, rest⟩ := run
  rw [List.foldlM_cons, Run.perform_bind_eq_ok] at rest
  obtain ⟨_, after, own, others⟩ := rest
  obtain ⟨none, _⟩ | ⟨content, location, isContent, leads, put⟩ := writeModule_returns own
  · cases none.symm.trans made
  · obtain rfl := Option.some.inj (Except.ok.inj (isContent.symm.trans made))
    obtain ⟨_, otherSpace, path, _, namedOther, isPath, located⟩ := leads
    obtain rfl := Value.text.inj (Option.some.inj (namedOther.symm.trans named))
    obtain ⟨folders, unchanged⟩ := writeModules_returns others
    have sameFolders : ended.disk.folders = before.disk.folders := by
      rw [folders, put]
      rfl
    have kept : ended.disk.contentAt? location = some content := by
      rw [unchanged location fun other among leadsThere => ?_, put, Disk.contentAt?_put_self]
      obtain ⟨_, _, _, hasText, namedThere, isPathThere, locatedThere⟩ := leadsThere
      have here := getLast?_names_of_filePath isPath (unstroked module (by simp [listed]) _ named)
        located
      have there := getLast?_names_of_filePath isPathThere
        (unstroked other (by simp [listed, among]) _ namedThere) locatedThere
      rw [here, Option.some.injEq, String.append_left_inj] at there
      subst there
      cases (last other among namedThere).symm.trans hasText
    refine ⟨path, isPath, ?_, fun declaration => includes_of_moduleText made⟩
    rw [Disk.readFile, Disk.locateFile_of_folders sameFolders located, Outcome.ok_bind, kept]
    rfl

/-- Of two modules of one namespace the second one is what the file holds. -/
theorem file_holds_second_module :
    let writer : StubWriter := { settings := .default, known := ⟨[]⟩ }
    let module (name : String) : Value := .record [("namespace", .text "go"),
      ("brief", .text ""), ("elements",
        .list [.record [("name", .text name), ("type", .text "FUNCTION")]])]
    let start : Workspace := { disk := { folders := [Location.work.child "api"] } }
    ∃ written finish path text, (writeFiles writer "1" [module "go.get", module "go.set"]).perform
        start = (.ok written, finish) ∧
      filePath writer "go" = .ok path ∧ finish.disk.readFile path = .ok text ∧
      ∀ declaration, IsDeclarationOf writer (module "go.set") declaration →
        Text.includes text declaration = true := by
  intro writer module start
  let run := (writeFiles writer "1" [module "go.get", module "go.set"]).perform start
  obtain ⟨written, returns⟩ := Outcome.exists_of_isOk (show run.1.isOk = true by decide +kernel)
  have isMade : (moduleText? writer "1" (module "go.set")).toOption.join.isSome = true := by
    decide +kernel
  obtain ⟨text, made⟩ : ∃ text, moduleText? writer "1" (module "go.set") = .ok (some text) := by
    generalize moduleText? writer "1" (module "go.set") = outcome at isMade ⊢
    match outcome, isMade with
    | .ok (some text), _ => exact ⟨text, rfl⟩
  have unstroked : ∀ other ∈ [module "go.get", module "go.set"], ∀ space,
      other.field? "namespace" = some (.text space) → '/' ∉ space.toList := by
    intro other member space named
    have isGo : other.field? "namespace" = some (.text "go") := by
      rcases List.mem_pair.1 member with rfl | rfl <;> rfl
    rw [isGo] at named
    obtain rfl := Value.text.inj (Option.some.inj named)
    decide
  obtain ⟨path, isPath, read, held⟩ := file_holds_last_module writer "1"
    [module "go.get", module "go.set"] start run.2 written (Prod.ext returns rfl) unstroked
    [module "go.get"] [] (module "go.set") "go" text rfl rfl made (by simp)
  exact ⟨written, run.2, path, text, Prod.ext returns rfl, isPath, read, held⟩

/-- Of two modules of one namespace the first one is lost: its declaration is not in the file of the
namespace. -/
theorem file_loses_first_module :
    let writer : StubWriter :=
      { settings := { Settings.default with diagnostics := [] }, known := ⟨[]⟩ }
    let module (name : String) : Value := .record [("namespace", .text "go"),
      ("brief", .text ""), ("elements",
        .list [.record [("name", .text name), ("type", .text "FUNCTION")]])]
    let start : Workspace := { disk := { folders := [Location.work.child "api"] } }
    let declaration := "---\nfunction go.get() end"
    ∃ written finish content, (writeFiles writer "1" [module "go.get", module "go.set"]).perform
        start = (.ok written, finish) ∧
      IsDeclarationOf writer (module "go.get") declaration ∧
      finish.disk.readFile "api/go.lua" = .ok content ∧
      Text.includes content declaration = false := by
  intro writer module start declaration
  let run := (writeFiles writer "1" [module "go.get", module "go.set"]).perform start
  obtain ⟨written, returns⟩ := Outcome.exists_of_isOk (show run.1.isOk = true by decide +kernel)
  obtain ⟨content, read⟩ := Outcome.exists_of_isOk
    (show (run.2.disk.readFile "api/go.lua").isOk = true by decide +kernel)
  have lost : (run.2.disk.readFile "api/go.lua").toOption.all
      (fun content => !Text.includes content declaration) = true := by decide +kernel
  refine ⟨written, run.2, content, Prod.ext returns rfl, ?_, read, ?_⟩
  · exact ⟨_, _, rfl, rfl, _, List.mem_singleton_self _, .function, rfl, rfl⟩
  · simpa [read, Except.toOption] using lost

end ApiStubs.Lua
