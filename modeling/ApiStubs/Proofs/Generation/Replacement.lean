import ApiStubs.Proofs.Generation.StubFolder

/-!
# The stub folder is replaced

A run either finds a fault before it changes the disk, or it replaces the stub folder. So after a
run that returns the folder holds what this run has written and nothing that earlier runs have left.

- `isTree_afterRuns` says that any number of runs leaves a tree, from which the next run can start.
- `HoldsStubs` says which files and folders are in the stub folder.
- `generate_replaces_or_changes_nothing` is the main result.
-/

namespace ApiStubs.Generation

/-- The workspace after earlier runs, each with its answers and arguments. -/
def afterRuns (runs : List (Web × List String)) (start : Workspace) : Workspace :=
  runs.foldl (fun workspace run => ((generate run.1 run.2).perform workspace).2) start

/-- Earlier runs leave a tree. -/
theorem isTree_afterRuns {start : Workspace} (tree : start.disk.IsTree)
    (runs : List (Web × List String)) : (afterRuns runs start).disk.IsTree := by
  induction runs generalizing start with
  | nil => exact tree
  | cons run rest inductionHypothesis =>
      exact inductionHypothesis (keeps_isTree_generate run.1 run.2 start tree)

/-- Two disks have the same files and folders within a folder. -/
def AgreeWithin (folder : Location) (disk other : Disk) : Prop :=
  ∀ location, location.isWithin folder = true → Disk.AgreeAt location disk other

/-- A module declares something under a namespace. -/
def DeclaresUnder (prepared : Preparation) (module : Value) (space : String) : Prop :=
  module.field? "namespace" = some (.text space) ∧
    ∃ writer text, StubWriter.ofSettings prepared.settings = .ok writer ∧
      Lua.moduleText? writer prepared.version module = .ok (some text)

/-- The stub folder holds the files of a run and nothing else: the Teal file, and a file for every
namespace under which a module declares something. -/
structure HoldsStubs (prepared : Preparation) (folder : Location) (disk : Disk) : Prop where
  folders : ∀ location, location.isWithin folder = true →
    (disk.isFolder location = true ↔ location = folder)
  files : ∀ location, location.isWithin folder = true →
    (disk.isFile location = true ↔ location = folder.child Teal.fileName ∨
      ∃ module ∈ prepared.modules, ∃ space, DeclaresUnder prepared module space ∧
        location = folder.child (space ++ ".lua"))

/-- The files of a run are the Teal file and those of the namespaces. -/
theorem exists_mem_stubFiles {prepared : Preparation} {files : List (String × String)}
    (returns : stubFiles prepared = .ok files) (holds : String → Prop) :
    (∃ file ∈ files, holds file.1) ↔ holds Teal.fileName ∨
      ∃ module ∈ prepared.modules, ∃ space, DeclaresUnder prepared module space ∧
        holds (space ++ ".lua") := by
  simp only [stubFiles, Outcome.bind_eq_ok, Outcome.pure_eq_ok] at returns
  obtain ⟨writer, isWriter, lines, _, rfl⟩ := returns
  simp only [List.mem_append, List.mem_filterMap, List.mem_singleton, stubFile?_eq_some]
  constructor
  · rintro ⟨_, ⟨module, member, text, space, made, named, rfl⟩ | rfl, held⟩
    · exact .inr ⟨module, member, space, ⟨named, writer, text, isWriter, made⟩, held⟩
    · exact .inl held
  · rintro (held | ⟨module, member, space, ⟨named, other, text, isOther, made⟩, held⟩)
    · exact ⟨_, .inr rfl, held⟩
    · obtain rfl := Except.ok.inj (isWriter.symm.trans isOther)
      exact ⟨_, .inl ⟨module, member, text, space, made, named, rfl⟩, held⟩

/-- A folder made anew with the files of a run in it holds these and nothing else. -/
theorem holdsStubs_of_putAll {prepared : Preparation} {files : List (String × String)}
    (returns : stubFiles prepared = .ok files) (disk : Disk) (folder : String) :
    HoldsStubs prepared (Location.work.child folder)
      ((disk.renew (Location.work.child folder)).putAll (Location.work.child folder) files) where
  folders location isWithin := by
    rw [Disk.isFolder_putAll, Disk.isFolder_renew disk (by simp [Location.child]) isWithin]
  files location isWithin := by
    have empty : (disk.renew (Location.work.child folder)).isFile location = false := by
      rw [Disk.isFile, Disk.contentAt?_renew, if_pos isWithin]
      rfl
    rw [Disk.isFile_putAll, empty, Bool.false_eq_true, false_or]
    exact exists_mem_stubFiles returns fun name =>
      location = (Location.work.child folder).child name

/-- A folder made anew with the same files in it is the same on every disk. -/
theorem agreeWithin_putAll (disk other : Disk) (folder : String) (files : List (String × String)) :
    AgreeWithin (Location.work.child folder)
      ((disk.renew (Location.work.child folder)).putAll (Location.work.child folder) files)
      ((other.renew (Location.work.child folder)).putAll (Location.work.child folder) files) := by
  intro location isWithin
  have named : (Location.work.child folder).names ≠ [] := by simp [Location.child]
  constructor
  · apply Disk.contentAt?_putAll_congr
    rw [Disk.contentAt?_renew, Disk.contentAt?_renew, if_pos isWithin, if_pos isWithin]
  · rw [Disk.isFolder_putAll, Disk.isFolder_putAll, Bool.eq_iff_iff,
      Disk.isFolder_renew disk named isWithin, Disk.isFolder_renew other named isWithin]

/-- A run either finds a fault before it changes the disk, and leaves every file and folder as it
was, or it replaces the stub folder: what the folder holds after a run that returns are the files of
this run, and they are the same whatever the disk was before. This holds after any number of earlier
runs, for a stub folder with a plain name and namespaces without strokes. -/
theorem generate_replaces_or_changes_nothing (start : Workspace) (tree : start.disk.IsTree)
    (earlier : List (Web × List String)) (web : Web) (arguments : List String) :
    let before := afterRuns earlier start
    (∀ fault, ((prepare web arguments).perform before).1 = .error fault →
      ∃ finish, (generate web arguments).perform before = (.error fault, finish) ∧
        finish.disk = before.disk) ∧
    ∀ finish, (generate web arguments).perform before = (.ok (), finish) →
      ∃ prepared, ((prepare web arguments).perform before).1 = .ok prepared ∧
        ∀ folder, prepared.settings.stubFolder = .text folder → Path.IsPlainName folder →
          AreUnstroked prepared.modules →
          HoldsStubs prepared (Location.work.child folder) finish.disk ∧
          ∀ other, other.disk.IsTree →
            correctionsOn other.disk arguments[1]? = correctionsOn before.disk arguments[1]? →
            ∀ finishOther, (generate web arguments).perform other = (.ok (), finishOther) →
              AgreeWithin (Location.work.child folder) finish.disk finishOther.disk := by
  intro before
  have treeBefore : before.disk.IsTree := isTree_afterRuns tree earlier
  obtain ⟨outcome, lines, prepares⟩ := exists_perform_prepare web arguments
    (correctionsOn before.disk arguments[1]?)
  simp only [generate_eq_bind, Run.perform_bind, prepares before rfl]
  cases outcome with
  | error fault => simp
  | ok prepared =>
      refine ⟨by simp, fun finish replaces => ?_⟩
      refine ⟨prepared, rfl, fun folder isFolder plain unstroked => ?_⟩
      obtain ⟨files, areFiles, whole⟩ :=
        replaceStubs_returns replaces treeBefore isFolder plain unstroked
      refine ⟨whole ▸ holdsStubs_of_putAll areFiles before.disk folder, ?_⟩
      intro other treeOther same finishOther replacesOther
      rw [prepares other same] at replacesOther
      obtain ⟨others, areOthers, wholeOther⟩ :=
        replaceStubs_returns replacesOther treeOther isFolder plain unstroked
      obtain rfl := Except.ok.inj (areFiles.symm.trans areOthers)
      rw [whole, wholeOther]
      exact agreeWithin_putAll before.disk other.disk folder files

/-- A stale file is gone after a run: the stub folder holds the files of the run alone, as it does
when the run starts without the folder. A run whose requests are refused leaves the file. -/
theorem stale_file_is_removed :
    let arguments := ["1.9.0", "corrections.json"]
    let api := Location.work.child "api"
    let corrections := (Location.work.child "corrections.json", narrowCorrections "go")
    let start : Workspace :=
      { disk := { folders := [api], files := [corrections, (api.child "stale.lua", "old")] } }
    let other : Workspace := { disk := { files := [corrections] } }
    let refusing : Web := fun _ => { status := 404, body := .text "" }
    (∃ fault finish, (generate refusing arguments).perform start = (.error fault, finish) ∧
      finish.disk = start.disk) ∧
    ∃ prepared finish finishOther,
      (generate (documentAnswers "go") arguments).perform
        (afterRuns [(refusing, arguments)] start) = (.ok (), finish) ∧
      (generate (documentAnswers "go") arguments).perform other = (.ok (), finishOther) ∧
      HoldsStubs prepared api finish.disk ∧ AgreeWithin api finish.disk finishOther.disk := by
  intro arguments api corrections start other refusing
  let before := afterRuns [(refusing, arguments)] start
  have tree : start.disk.IsTree := by decide +kernel
  have treeOther : other.disk.IsTree := by decide +kernel
  have plain : Path.IsPlainName "api" := ⟨by decide, by decide, by decide, by decide⟩
  have refused : ((prepare refusing arguments).perform start).1.isOk = false := by decide +kernel
  obtain ⟨changesNothing, -⟩ :=
    generate_replaces_or_changes_nothing start tree [] refusing arguments
  obtain ⟨-, replaces⟩ := generate_replaces_or_changes_nothing start tree
    [(refusing, arguments)] (documentAnswers "go") arguments
  have leaves : ∃ fault finish, (generate refusing arguments).perform start =
      (.error fault, finish) ∧ finish.disk = start.disk := by
    cases performed : ((prepare refusing arguments).perform start).1 with
    | ok prepared => simp [performed, Except.isOk, Except.toBool] at refused
    | error fault => exact ⟨fault, changesNothing fault performed⟩
  refine ⟨leaves, ?_⟩
  let passes (prepared : Preparation) (_ : Workspace) : Bool :=
    prepared.settings.stubFolder.text? == some "api" && decide (AreUnstroked prepared.modules)
  obtain ⟨prepared, finish, prepares, returns, passed⟩ := exists_returned passes
    (show ((preparation? (documentAnswers "go") "1.9.0" "corrections.json" before).any fun found =>
      replacesTo passes found.1 found.2) = true by decide +kernel)
  obtain ⟨_, finishOther, _, returnsOther, _⟩ := exists_returned passes
    (show ((preparation? (documentAnswers "go") "1.9.0" "corrections.json" other).any fun found =>
      replacesTo passes found.1 found.2) = true by decide +kernel)
  simp only [passes, Bool.and_eq_true, beq_iff_eq, Value.text?_eq_some, decide_eq_true_iff]
    at passed
  have same : correctionsOn other.disk (some "corrections.json") =
      correctionsOn before.disk (some "corrections.json") := by
    obtain ⟨fault, finish, performed, sameDisk⟩ := leaves
    have once : before = ((generate refusing arguments).perform start).2 := rfl
    have reads : correctionsOn start.disk (some "corrections.json") =
        .ok (some (narrowCorrections "go")) := Outcome.toOption_eq_some.1 (by decide +kernel)
    have readsOther : correctionsOn other.disk (some "corrections.json") =
        .ok (some (narrowCorrections "go")) := Outcome.toOption_eq_some.1 (by decide +kernel)
    rw [once, performed, sameDisk, reads, readsOther]
  obtain ⟨_, preparesToo, holds⟩ := replaces finish returns
  obtain rfl := Except.ok.inj (prepares.symm.trans preparesToo)
  obtain ⟨holdsStubs, agrees⟩ := holds "api" passed.1 plain passed.2
  exact ⟨prepared, finish, finishOther, returns, returnsOther, holdsStubs,
    agrees other treeOther same finishOther returnsOther⟩

end ApiStubs.Generation
