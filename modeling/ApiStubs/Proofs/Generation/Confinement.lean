import ApiStubs.Proofs.Generation.StubFolder

/-!
# What lies outside the stub folder

A run removes and makes the stub folder and writes its files. The path of a file is put together of
the folder and of a namespace, and the namespace comes from a document as it is. So a run stays
within the stub folder as long as the namespaces do not lead out of it.

- `AreConfined` says that they do not; a namespace without a stroke never does.
- `generate_changes_nothing_outside` says that every other file and folder is left as it was,
  whether the run returns or a fault ends it.
- `stray_file_beside_folder` shows a namespace that leads out, and the file that is written there.
-/

namespace ApiStubs.Generation

/-- No namespace of modules leads out of the folder of a name. -/
def AreConfined (folder : String) (modules : List Value) : Prop :=
  ∀ module ∈ modules, ∀ space, module.field? "namespace" = some (.text space) →
    (Location.ofPath (Path.join folder (space ++ ".lua"))).isWithin
      (Location.work.child folder) = true

instance (folder : String) (modules : List Value) : Decidable (AreConfined folder modules) :=
  decidable_of_iff (∀ module ∈ modules, ∀ space ∈ (module.field? "namespace").bind Value.text?,
      (Location.ofPath (Path.join folder (space ++ ".lua"))).isWithin
        (Location.work.child folder) = true) (by
    simp only [AreConfined, Option.mem_def, Option.bind_eq_some_iff, Value.text?_eq_some,
      exists_eq_right])

/-- Namespaces without strokes do not lead out of a folder. -/
theorem areConfined_of_unstroked {folder : String} (plain : Path.IsPlainName folder)
    {modules : List Value} (unstroked : AreUnstroked modules) : AreConfined folder modules := by
  intro module member space named
  rw [Location.ofPath_join plain (isPlainName_of_unstroked (unstroked module member space named))]
  exact Location.child_isWithin ..

variable {folder : String} {prepared : Preparation} {location : Location}

/-- Every file that a run can write lies within the stub folder. -/
theorem isWithin_of_isStubPath (plain : Path.IsPlainName folder)
    (isFolder : prepared.settings.stubFolder = .text folder)
    (confined : AreConfined folder prepared.modules) {path : String}
    (isStubPath : IsStubPath prepared path) :
    (Location.ofPath path).isWithin (Location.work.child folder) = true := by
  cases isStubPath with
  | tealFile isFolderToo =>
      obtain rfl := Value.text.inj (isFolder.symm.trans isFolderToo)
      rw [Location.ofPath_join plain isPlainName_tealFile]
      exact Location.child_isWithin ..
  | moduleFile isFolderToo member named =>
      obtain rfl := Value.text.inj (isFolder.symm.trans isFolderToo)
      exact confined _ member _ named

/-- Replacing the stubs changes nothing outside the stub folder. -/
theorem keeps_agreeAt_replaceStubs (plain : Path.IsPlainName folder)
    (isFolder : prepared.settings.stubFolder = .text folder)
    (confined : AreConfined folder prepared.modules)
    (outside : location.isWithin (Location.work.child folder) = false) (before : Disk) :
    Run.Keeps (Disk.AgreeAt location · before) (replaceStubs prepared) := by
  have keeps {disk next : Disk} (agrees : Disk.AgreeAt location disk before)
      (changes : Disk.AgreeAt location next disk) : Disk.AgreeAt location next before :=
    ⟨changes.1.trans agrees.1, changes.2.trans agrees.2⟩
  refine keeps_replaceStubs (fun name named => ?_) (fun name named => ?_)
    fun path content isStubPath => ?_
  · obtain rfl := Value.text.inj (isFolder.symm.trans named)
    refine Run.keeps_changeDisk fun disk agrees => ?_
    rcases Disk.removeFolder_cases plain disk with same | removed
    · rwa [same]
    · rw [removed]
      exact keeps agrees (Disk.agreeAt_removeWithin outside disk)
  · obtain rfl := Value.text.inj (isFolder.symm.trans named)
    refine Run.keeps_changeDisk fun disk agrees => ?_
    rcases Disk.makeFolders_cases plain disk with same | made
    · rwa [same]
    · rw [made]
      exact keeps agrees (Disk.agreeAt_addFolder outside disk)
  · have inside := isWithin_of_isStubPath plain isFolder confined isStubPath
    refine Run.keeps_save fun disk written agrees leads => ?_
    rw [Disk.ofPath_of_locateFile leads] at inside
    exact keeps agrees (Disk.agreeAt_put outside inside disk content)

/-- A run leaves every file and folder outside the stub folder as it was, and makes no new one
there, whether it returns or a fault ends it, for a stub folder with a plain name and namespaces
that do not lead out of it. -/
theorem generate_changes_nothing_outside (web : Web) (arguments : List String) (start : Workspace)
    (folder : String) (plain : Path.IsPlainName folder)
    (confined : ∀ prepared, ((prepare web arguments).perform start).1 = .ok prepared →
      prepared.settings.stubFolder = .text folder ∧ AreConfined folder prepared.modules)
    (location : Location) (outside : location.isWithin (Location.work.child folder) = false) :
    Disk.AgreeAt location ((generate web arguments).perform start).2.disk start.disk := by
  have replaces : ∀ prepared, ((prepare web arguments).perform start).1 = .ok prepared →
      Run.Keeps (Disk.AgreeAt location · start.disk) (replaceStubs prepared) := by
    intro prepared prepares
    obtain ⟨isFolder, areConfined⟩ := confined prepared prepares
    exact keeps_agreeAt_replaceStubs plain isFolder areConfined outside start.disk
  exact holds_generate replaces ⟨rfl, rfl⟩

/-- The corrections beside the stub folder are as they were after a run over a document of the
namespace `go`. -/
theorem corrections_beside_folder_stay :
    let corrections := Location.work.child "corrections.json"
    let start : Workspace := { disk := { files := [(corrections, narrowCorrections "go")] } }
    Disk.AgreeAt corrections
      ((generate (documentAnswers "go") ["1.9.0", "corrections.json"]).perform start).2.disk
      start.disk := by
  intro corrections start
  let passes (prepared : Preparation) (_ : Workspace) : Bool :=
    prepared.settings.stubFolder.text? == some "api" && decide (AreConfined "api" prepared.modules)
  obtain ⟨prepared, _, prepares, passed⟩ := exists_prepared passes
    (show ((preparation? (documentAnswers "go") "1.9.0" "corrections.json" start).any fun found =>
      passes found.1 found.2) = true by decide +kernel)
  simp only [passes, Bool.and_eq_true, beq_iff_eq, Value.text?_eq_some, decide_eq_true_iff]
    at passed
  refine generate_changes_nothing_outside _ _ start "api"
    ⟨by decide, by decide, by decide, by decide⟩ ?_ corrections (by decide)
  rintro other preparesOther
  rw [prepares] at preparesOther
  obtain rfl := Except.ok.inj preparesOther
  exact passed

/-- A namespace can lead out of the stub folder: a run over a document of the namespace `../stray`
returns, and has written a new file beside the folder. -/
theorem stray_file_beside_folder :
    let corrections := Location.work.child "corrections.json"
    let stray := Location.work.child "stray.lua"
    let start : Workspace :=
      { disk := { files := [(corrections, narrowCorrections "../stray")] } }
    ∃ prepared finish,
      ((prepare (documentAnswers "../stray") ["1.9.0", "corrections.json"]).perform start).1 =
        .ok prepared ∧
      prepared.settings.stubFolder = .text "api" ∧
      (generate (documentAnswers "../stray") ["1.9.0", "corrections.json"]).perform start =
        (.ok (), finish) ∧
      stray.isWithin (Location.work.child "api") = false ∧
      start.disk.isFile stray = false ∧ finish.disk.isFile stray = true := by
  intro corrections stray start
  let passes (prepared : Preparation) (finish : Workspace) : Bool :=
    prepared.settings.stubFolder.text? == some "api" && finish.disk.isFile stray
  obtain ⟨prepared, finish, prepares, returns, passed⟩ := exists_returned passes
    (show ((preparation? (documentAnswers "../stray") "1.9.0" "corrections.json" start).any
      fun found => replacesTo passes found.1 found.2) = true by decide +kernel)
  simp only [passes, Bool.and_eq_true, beq_iff_eq, Value.text?_eq_some] at passed
  exact ⟨prepared, finish, prepares, passed.1, returns, by decide, by decide, passed.2⟩

end ApiStubs.Generation
