import ApiStubs.Proofs.Generation.Preparation
import ApiStubs.Proofs.Lua.Writing

/-!
# What replacing the stubs does

After the preparation a run puts a new folder in place of the one that is there and writes its files
into it. This module says what that leaves when the run returns, and what it keeps in any case.

- `stubFiles` are the files of a run, in the order in which they are written.
- `replaceStubs_returns` says that a run leaves the folder made anew with these files in it.
- `keeps_replaceStubs` says which properties of a disk a run keeps, also when a fault ends it: those
  that removing and making the folder and writing each single file keep.
-/

namespace ApiStubs.Generation

open ApiStubs.Reference

/-! ## The files of a run -/

/-- The name and the content of the file of a module, if it has one. -/
def stubFile? (writer : StubWriter) (version : String) (module : Value) :
    Option (String × String) :=
  match Lua.moduleText? writer version module, module.field? "namespace" with
  | .ok (some text), some (.text space) => some (space ++ ".lua", text)
  | _, _ => none

/-- The names and the contents of the files that a run writes, in that order. -/
def stubFiles (prepared : Preparation) : Outcome (List (String × String)) := do
  let writer ← StubWriter.ofSettings prepared.settings
  let lines ← Teal.renderLines writer prepared.version prepared.modules
  return prepared.modules.filterMap (stubFile? writer prepared.version) ++
    [(Teal.fileName, Text.join "\n" lines ++ "\n")]

/-- No namespace of modules holds a stroke. -/
def AreUnstroked (modules : List Value) : Prop :=
  ∀ module ∈ modules, ∀ space, module.field? "namespace" = some (.text space) →
    '/' ∉ space.toList

instance (modules : List Value) : Decidable (AreUnstroked modules) :=
  decidable_of_iff (∀ module ∈ modules, ∀ space ∈ (module.field? "namespace").bind Value.text?,
      '/' ∉ space.toList) (by
    simp only [AreUnstroked, Option.mem_def, Option.bind_eq_some_iff, Value.text?_eq_some,
      exists_eq_right])

/-- A module has a file when it declares something under a namespace. -/
theorem stubFile?_eq_some {writer : StubWriter} {version : String} {module : Value}
    {file : String × String} :
    stubFile? writer version module = some file ↔
      ∃ text space, Lua.moduleText? writer version module = .ok (some text) ∧
        module.field? "namespace" = some (.text space) ∧ (space ++ ".lua", text) = file := by
  rw [stubFile?]
  split
  · next text space made named => simp [made, named]
  · next other =>
      simp only [reduceCtorEq, false_iff]
      rintro ⟨text, space, made, named, -⟩
      exact other text space made named

/-- The file of a namespace without a stroke has a plain name. -/
theorem isPlainName_of_unstroked {space : String} (unstroked : '/' ∉ space.toList) :
    Path.IsPlainName (space ++ ".lua") := by
  have differs {other : String} (short : other.length < 4) : space ++ ".lua" ≠ other := by
    intro same
    have lengths := congrArg String.length same
    rw [String.length_append, show ".lua".length = 4 by decide] at lengths
    omega
  exact ⟨by simpa using unstroked, differs (by decide), differs (by decide), differs (by decide)⟩

/-- The Teal file has a plain name. -/
theorem isPlainName_tealFile : Path.IsPlainName Teal.fileName :=
  ⟨by decide, by decide, by decide, by decide⟩

/-- The settings of a writer are those it is made for. -/
theorem settings_of_ofSettings {settings : Settings} {writer : StubWriter}
    (returns : StubWriter.ofSettings settings = .ok writer) : writer.settings = settings := by
  obtain ⟨known, _, made⟩ := Outcome.bind_eq_ok.1 returns
  obtain rfl := Outcome.pure_eq_ok.1 made
  rfl

section Writing

variable {writer : StubWriter} {version folder : String} {start finish : Workspace}

/-- The path of a file in the folder of a writer. -/
theorem filePath_eq_ok (isFolder : writer.settings.stubFolder = .text folder)
    {space path : String} :
    Lua.filePath writer space = .ok path ↔ Path.join folder (space ++ ".lua") = path := by
  rw [Lua.filePath, isFolder]
  exact Outcome.pure_eq_ok

/-- Writing a module writes its file, if it has one, and nothing else. -/
theorem writeModule_puts (isFolder : writer.settings.stubFolder = .text folder)
    (plain : Path.IsPlainName folder) {module : Value}
    (unstroked : ∀ space, module.field? "namespace" = some (.text space) → '/' ∉ space.toList)
    {written next : Table String}
    (returns : (Lua.writeModule writer version written module).perform start = (.ok next, finish)) :
    finish.disk =
      start.disk.putAll (Location.work.child folder) (stubFile? writer version module).toList := by
  obtain ⟨made, same⟩ | ⟨text, location, made, leads, put⟩ := Lua.writeModule_returns returns
  · have noFile : stubFile? writer version module = none := by
      simp [stubFile?, made]
    rw [noFile, same]
    rfl
  · obtain ⟨_, space, path, _, named, isPath, located⟩ := leads
    have isFile : stubFile? writer version module = some (space ++ ".lua", text) :=
      stubFile?_eq_some.2 ⟨text, space, made, named, rfl⟩
    obtain rfl := (filePath_eq_ok isFolder).1 isPath
    rw [← Disk.ofPath_of_locateFile located,
      Location.ofPath_join plain (isPlainName_of_unstroked (unstroked space named))] at put
    rw [isFile, put]
    rfl

/-- Writing modules writes their files, and nothing else. -/
theorem writeModules_puts (isFolder : writer.settings.stubFolder = .text folder)
    (plain : Path.IsPlainName folder) {modules : List Value} (unstroked : AreUnstroked modules)
    {written result : Table String}
    (returns : (modules.foldlM (Lua.writeModule writer version) written).perform start =
      (.ok result, finish)) :
    finish.disk = start.disk.putAll (Location.work.child folder)
      (modules.filterMap (stubFile? writer version)) := by
  induction modules generalizing written start with
  | nil =>
      obtain ⟨_, rfl⟩ := Run.perform_pure_eq_ok.1 returns
      rfl
  | cons module rest inductionHypothesis =>
      rw [List.foldlM_cons, Run.perform_bind_eq_ok] at returns
      obtain ⟨next, middle, first, later⟩ := returns
      obtain ⟨unstrokedFirst, unstrokedRest⟩ := List.forall_mem_cons.1 unstroked
      rw [inductionHypothesis unstrokedRest later,
        writeModule_puts isFolder plain unstrokedFirst first, ← Disk.putAll_append,
        List.filterMap_cons]
      cases stubFile? writer version module <;> rfl

/-- Writing the Teal file writes that file, and nothing else. -/
theorem writeTealFile_puts (isFolder : writer.settings.stubFolder = .text folder)
    (plain : Path.IsPlainName folder) {modules : List Value} {path : String}
    (returns : (Teal.writeFile writer version modules).perform start = (.ok path, finish)) :
    ∃ lines, Teal.renderLines writer version modules = .ok lines ∧
      finish.disk = start.disk.putAll (Location.work.child folder)
        [(Teal.fileName, Text.join "\n" lines ++ "\n")] := by
  simp only [Teal.writeFile, Run.perform_bind_eq_ok, Run.perform_print_eq_ok,
    Run.perform_ofOutcome_eq_ok, Run.perform_save_eq_ok, Run.perform_pure_eq_ok] at returns
  obtain ⟨_, _, rfl, path, _, ⟨isPath, rfl⟩, lines, _, ⟨rendered, rfl⟩, _, _,
    ⟨location, located, rfl⟩, _, _, rfl, _, rfl⟩ := returns
  rw [Teal.filePath, isFolder] at isPath
  obtain rfl := Outcome.pure_eq_ok.1 isPath
  refine ⟨lines, rendered, ?_⟩
  rw [← Disk.ofPath_of_locateFile located, Location.ofPath_join plain isPlainName_tealFile]
  rfl

end Writing

section Replacing

variable {prepared : Preparation} {folder : String} {start finish : Workspace}

/-- Replacing the stubs leaves a folder made anew with the files of the run in it. -/
theorem replaceStubs_returns
    (returns : (replaceStubs prepared).perform start = (.ok (), finish)) (tree : start.disk.IsTree)
    (isFolder : prepared.settings.stubFolder = .text folder) (plain : Path.IsPlainName folder)
    (unstroked : AreUnstroked prepared.modules) :
    ∃ files, stubFiles prepared = .ok files ∧
      finish.disk = (start.disk.renew (Location.work.child folder)).putAll
        (Location.work.child folder) files := by
  obtain ⟨_, renewed, renews, writes⟩ := Run.perform_bind_eq_ok.1 returns
  have madeAnew : renewed.disk = start.disk.renew (Location.work.child folder) := by
    simp only [renewFolder, isFolder, Run.perform_bind_eq_ok, Run.perform_ofOutcome_eq_ok,
      Run.removeFolder, Run.makeFolders, Run.perform_changeDisk_eq_ok] at renews
    obtain ⟨_, _, ⟨isText, rfl⟩, _, _, ⟨removed, removes, rfl⟩, made, makes, rfl⟩ := renews
    obtain rfl := Except.ok.inj isText
    exact tree.renew_of_returns plain removes makes
  simp only [writeStubs, Run.perform_bind_eq_ok, Run.perform_ofOutcome_eq_ok,
    Run.perform_discard_eq_ok, Lua.writeFiles, Run.perform_print_eq_ok,
    Run.perform_pure_eq_ok] at writes
  obtain ⟨writer, _, ⟨isWriter, rfl⟩, _, _,
    ⟨_, _, _, rfl, _, _, modules, _, _, rfl, rfl, rfl⟩, _, tealFile⟩ := writes
  have inFolder : writer.settings.stubFolder = .text folder := by
    rw [settings_of_ofSettings isWriter, isFolder]
  have moduleFiles := writeModules_puts inFolder plain unstroked modules
  obtain ⟨lines, rendered, whole⟩ := writeTealFile_puts inFolder plain tealFile
  have areFiles : stubFiles prepared = .ok
      (prepared.modules.filterMap (stubFile? writer prepared.version) ++
        [(Teal.fileName, Text.join "\n" lines ++ "\n")]) :=
    Outcome.bind_eq_ok.2 ⟨writer, isWriter, Outcome.bind_eq_ok.2 ⟨lines, rendered, rfl⟩⟩
  refine ⟨_, areFiles, ?_⟩
  rw [whole, Disk.putAll_append, ← madeAnew]
  exact congrArg (Disk.putAll · _ _) moduleFiles

end Replacing

/-! ## What a run keeps -/

/-- The paths of the files that a run can write. -/
inductive IsStubPath (prepared : Preparation) : String → Prop
  | tealFile {folder : String} (isFolder : prepared.settings.stubFolder = .text folder) :
      IsStubPath prepared (Path.join folder Teal.fileName)
  | moduleFile {folder space : String} {module : Value}
      (isFolder : prepared.settings.stubFolder = .text folder) (member : module ∈ prepared.modules)
      (named : module.field? "namespace" = some (.text space)) :
      IsStubPath prepared (Path.join folder (space ++ ".lua"))

section Keeping

variable {holds : Disk → Prop} {prepared : Preparation}

/-- Writing a module keeps what the writing of its file keeps. -/
theorem keeps_writeModule {writer : StubWriter} (ofSettings : writer.settings = prepared.settings)
    (saves : ∀ path content, IsStubPath prepared path → Run.Keeps holds (Run.save path content))
    {module : Value} (member : module ∈ prepared.modules) (written : Table String) :
    Run.Keeps holds (Lua.writeModule writer prepared.version written module) := by
  have renders : Run.Keeps holds (Lua.renderModule writer prepared.version module) := by
    refine (Run.keeps_ofOutcome _).bind fun text? => ?_
    dsimp only
    split
    · exact (Run.keeps_ofOutcome _).bind fun space => (Run.keeps_print _).bind fun _ =>
        Run.keeps_pure _
    · exact Run.keeps_pure _
  refine renders.bind fun text? => ?_
  cases text? with
  | none => exact Run.keeps_pure _
  | some text =>
      refine Run.keeps_ofOutcome_bind fun space named => ?_
      refine Run.keeps_ofOutcome_bind fun path isPath => ?_
      obtain ⟨value, found, isText⟩ := Outcome.bind_eq_ok.1 named
      obtain ⟨folder, isFolder, joined⟩ := Outcome.bind_eq_ok.1 isPath
      obtain rfl := Outcome.pure_eq_ok.1 joined
      rw [Value.require_eq_ok] at found
      rw [Value.asText_eq_ok] at isText isFolder
      rw [ofSettings] at isFolder
      exact (saves _ text (.moduleFile isFolder member (isText ▸ found))).bind fun _ =>
        Run.keeps_pure _

/-- Writing the stubs keeps what the writing of each file keeps. -/
theorem keeps_writeStubs
    (saves : ∀ path content, IsStubPath prepared path → Run.Keeps holds (Run.save path content)) :
    Run.Keeps holds (writeStubs prepared.settings prepared.version prepared.modules) := by
  refine Run.keeps_ofOutcome_bind fun writer isWriter => ?_
  have ofSettings := settings_of_ofSettings isWriter
  refine Run.Keeps.bind (Run.Keeps.discard ?_) fun _ => Run.Keeps.discard ?_
  · refine (Run.keeps_print _).bind fun _ => Run.Keeps.bind ?_ fun _ =>
      (Run.keeps_print _).bind fun _ => Run.keeps_pure _
    exact Run.keeps_foldlM (fun module member written =>
      keeps_writeModule ofSettings saves member written) []
  · refine (Run.keeps_print _).bind fun _ => Run.keeps_ofOutcome_bind fun path isPath =>
      Run.keeps_ofOutcome_bind fun lines _ => Run.Keeps.bind ?_ fun _ =>
        (Run.keeps_print _).bind fun _ => Run.keeps_pure _
    obtain ⟨folder, isFolder, joined⟩ := Outcome.bind_eq_ok.1 isPath
    obtain rfl := Outcome.pure_eq_ok.1 joined
    rw [Value.asText_eq_ok, ofSettings] at isFolder
    exact saves _ _ (.tealFile isFolder)

/-- Replacing the stubs keeps what removing and making the folder and writing each file keep. -/
theorem keeps_replaceStubs
    (removes : ∀ folder, prepared.settings.stubFolder = .text folder →
      Run.Keeps holds (Run.removeFolder folder))
    (makes : ∀ folder, prepared.settings.stubFolder = .text folder →
      Run.Keeps holds (Run.makeFolders folder))
    (saves : ∀ path content, IsStubPath prepared path → Run.Keeps holds (Run.save path content)) :
    Run.Keeps holds (replaceStubs prepared) := by
  refine Run.Keeps.bind (Run.keeps_ofOutcome_bind fun folder isText => ?_) fun _ =>
    keeps_writeStubs saves
  rw [Value.asText_eq_ok] at isText
  exact (removes folder isText).bind fun _ => makes folder isText

/-- A run keeps what the replacing of the stubs keeps that it has prepared. -/
theorem holds_generate {web : Web} {arguments : List String} {start : Workspace}
    (replaces : ∀ prepared, ((prepare web arguments).perform start).1 = .ok prepared →
      Run.Keeps holds (replaceStubs prepared))
    (held : holds start.disk) : holds ((generate web arguments).perform start).2.disk := by
  obtain ⟨outcome, lines, prepares⟩ := exists_perform_prepare web arguments
    (correctionsOn start.disk arguments[1]?)
  rw [generate_eq_bind, Run.perform_bind]
  rw [prepares start rfl] at replaces ⊢
  cases outcome with
  | error fault => exact held
  | ok prepared => exact replaces prepared rfl _ held

/-- A run leaves a tree. -/
theorem keeps_isTree_generate (web : Web) (arguments : List String) :
    Run.Keeps Disk.IsTree (generate web arguments) := by
  refine fun start tree => holds_generate (fun prepared _ => ?_) tree
  exact keeps_replaceStubs (fun folder _ => Run.keeps_isTree_removeFolder folder)
    (fun folder _ => Run.keeps_isTree_makeFolders folder)
    fun path content _ => Run.keeps_isTree_save path content

end Keeping

end ApiStubs.Generation
