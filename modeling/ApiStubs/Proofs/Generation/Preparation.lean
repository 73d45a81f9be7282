import ApiStubs.Generation
import ApiStubs.Proofs.Disk.Tree

/-!
# What comes before the disk is changed

A run finds out everything that can be wrong with its input before it changes the disk. `prepare` is
that part of it and `replaceStubs` is the rest.

- `generate_eq_bind` says that the whole run is the one followed by the other.
- `exists_perform_prepare` says that the first part only prints, and that what it finds and prints
  is determined by the answers, the arguments and the content of the corrections file.
-/

namespace ApiStubs

namespace Release

/-- A request only prints. -/
theorem onlyPrints_request (web : Web) (url : String) : Run.OnlyPrints (request web url) := by
  refine (Run.onlyPrints_print _).bind fun _ => ?_
  dsimp only
  split
  · exact Run.onlyPrints_throw _
  · exact Run.onlyPrints_pure _

/-- Asking for the current version only prints. -/
theorem onlyPrints_currentVersion (web : Web) (settings : Settings) :
    Run.OnlyPrints (currentVersion web settings) := by
  refine (onlyPrints_request web _).bind fun body => ?_
  cases body with
  | text content => exact Run.onlyPrints_ofOutcome _
  | archive members => exact Run.onlyPrints_throw _

/-- Fetching the documents only prints. -/
theorem onlyPrints_referenceDocuments (web : Web) (settings : Settings) (version : String) :
    Run.OnlyPrints (referenceDocuments web settings version) := by
  refine (Run.onlyPrints_ofOutcome _).bind fun url => ?_
  refine (Run.onlyPrints_print _).bind fun _ => ?_
  refine (onlyPrints_request web url).bind fun body => ?_
  cases body with
  | text content => exact Run.onlyPrints_throw _
  | archive members => exact Run.onlyPrints_ofOutcome _

end Release

namespace Generation

open ApiStubs.Reference

/-- What a run has found out before it changes the disk. -/
structure Preparation where
  settings : Settings
  version : String
  modules : List Value

/-- The part of a run that can find something wrong with its input. -/
def prepare (web : Web) (arguments : List String) : Run Preparation := do
  if 2 < arguments.length then throw .tooManyArguments
  let settings ← readSettings arguments[1]?
  let version ← chooseVersion web settings arguments[0]?
  let documents ← Release.referenceDocuments web settings version
  let modules ← Run.ofOutcome (collectModules settings documents)
  return { settings, version, modules }

/-- The part of a run that changes the disk. -/
def replaceStubs (prepared : Preparation) : Run Unit := do
  renewFolder prepared.settings
  writeStubs prepared.settings prepared.version prepared.modules

/-- A run prepares, and then replaces the stubs. -/
theorem generate_eq_bind (web : Web) (arguments : List String) :
    generate web arguments = prepare web arguments >>= replaceStubs := by
  by_cases tooMany : 2 < arguments.length
  · rw [generate, prepare, if_pos tooMany, if_pos tooMany]
    rfl
  · rw [generate, prepare, if_neg tooMany, if_neg tooMany]
    simp only [replaceStubs, bind_assoc, pure_bind]

/-- The text of the corrections file on a disk, when a file is named. -/
def correctionsOn (disk : Disk) : Option String → Outcome (Option String)
  | none => .ok none
  | some path => (disk.readFile path).map some

/-- Reading the settings changes nothing, and depends on the text of the corrections file alone. -/
theorem perform_readSettings (path? : Option String) (start : Workspace) :
    (readSettings path?).perform start =
      ((correctionsOn start.disk path?).bind Settings.ofCorrections, start) := by
  cases path? with
  | none => rfl
  | some path =>
      have opened : (Run.readFile path).perform start = (start.disk.readFile path, start) := rfl
      simp only [readSettings, map_eq_pure_bind, Run.perform_bind, opened, correctionsOn]
      cases start.disk.readFile path <;> rfl

/-- Choosing the version only prints. -/
theorem onlyPrints_chooseVersion (web : Web) (settings : Settings) (given? : Option String) :
    Run.OnlyPrints (chooseVersion web settings given?) := by
  cases given? with
  | some version => exact Run.onlyPrints_pure version
  | none =>
      exact (Release.onlyPrints_currentVersion web settings).bind fun _ => Run.onlyPrints_pure _

/-- Preparing only prints. What it finds and prints is the same on all disks with the same
corrections. -/
theorem exists_perform_prepare (web : Web) (arguments : List String)
    (corrections : Outcome (Option String)) :
    ∃ outcome lines, ∀ start, correctionsOn start.disk arguments[1]? = corrections →
      (prepare web arguments).perform start =
        (outcome, { start with printed := start.printed ++ lines }) := by
  by_cases tooMany : 2 < arguments.length
  · refine ⟨.error .tooManyArguments, [], fun start _ => ?_⟩
    rw [prepare, if_pos tooMany, List.append_nil]
    rfl
  rw [prepare, if_neg tooMany]
  cases read : corrections.bind Settings.ofCorrections with
  | error fault =>
      refine ⟨.error fault, [], fun start same => ?_⟩
      rw [List.append_nil]
      simp only [Run.perform_bind, perform_readSettings, same, read]
  | ok settings =>
      have prints : Run.OnlyPrints (do
          let version ← chooseVersion web settings arguments[0]?
          let documents ← Release.referenceDocuments web settings version
          let modules ← Run.ofOutcome (collectModules settings documents)
          return { settings, version, modules : Preparation }) := by
        refine (onlyPrints_chooseVersion web settings _).bind fun version => ?_
        refine (Release.onlyPrints_referenceDocuments web settings version).bind fun documents => ?_
        exact (Run.onlyPrints_ofOutcome _).bind fun modules => Run.onlyPrints_pure _
      obtain ⟨outcome, lines, performed⟩ := prints
      refine ⟨outcome, lines, fun start same => ?_⟩
      simp only [Run.perform_bind (readSettings _), perform_readSettings, same, read]
      exact performed start

/-! ## Preparations that return -/

/-- The elements that declare the known types of settings. -/
def knownElements (settings : Settings) : List Value :=
  ((settings.classes.sorted.mapM fun entry => knownClass entry.1 entry.2).toOption.getD []) ++
    settings.aliases.sorted.map fun entry => knownAlias entry.1 entry.2

/-- The module of the known types, made without looking at its elements. -/
def knownRecord (settings : Settings) : Value :=
  .record [("namespace", .text knownNamespace), ("brief", .text knownBrief),
    ("description", .null), ("elements", .list (knownElements settings))]

/-- The module of the known types is made when every known class can be declared. -/
theorem knownModule_eq_ok {settings : Settings}
    (declarable : ∀ entry ∈ settings.classes, (knownClass entry.1 entry.2).isOk = true) :
    knownModule settings = .ok (knownRecord settings) := by
  have each : ∀ entry ∈ settings.classes.sorted,
      ∃ element, knownClass entry.1 entry.2 = .ok element ∧ True := by
    intro entry member
    obtain ⟨element, made⟩ :=
      Outcome.exists_of_isOk (declarable entry (List.mem_mergeSort.1 member))
    exact ⟨element, made, trivial⟩
  obtain ⟨classes, made, -⟩ := Outcome.exists_mapM each
  rw [knownRecord, knownElements, knownModule, made]
  rfl

/-- What a run with a version and a corrections file prepares, and the workspace after that; none
when something is wrong with its input. The elements of the known types are not looked at. -/
def preparation? (web : Web) (version path : String) (start : Workspace) :
    Option (Preparation × Workspace) :=
  match (correctionsOn start.disk (some path)).bind Settings.ofCorrections with
  | .error _ => none
  | .ok settings =>
      match (Release.referenceDocuments web settings version).perform start with
      | (.error _, _) => none
      | (.ok documents, finish) =>
          match readDocuments (documents.map Prod.snd) with
          | (_, some _) => none
          | (modules, none) =>
              if settings.classes.all fun entry => (knownClass entry.1 entry.2).isOk then
                some ({ settings, version, modules := knownRecord settings :: modules }, finish)
              else none

/-- A run prepares what follows from its input when nothing is wrong with it. -/
theorem perform_prepare_of_preparation {web : Web} {version path : String}
    {start finish : Workspace} {prepared : Preparation}
    (found : preparation? web version path start = some (prepared, finish)) :
    (prepare web [version, path]).perform start = (.ok prepared, finish) := by
  have begun : (prepare web [version, path]).perform start =
      Run.perform (readSettings (some path) >>= fun settings => do
        let version ← (pure version : Run String)
        let documents ← Release.referenceDocuments web settings version
        let modules ← Run.ofOutcome (collectModules settings documents)
        return { settings, version, modules }) start := rfl
  rw [begun, Run.perform_bind, perform_readSettings]
  rw [preparation?] at found
  split at found
  · cases found
  · next settings reads =>
      split at found
      · cases found
      · next documents finish fetches =>
          split at found
          · cases found
          · next modules isRead =>
              split at found
              · next declarable =>
                  have collects : collectModules settings documents =
                      .ok (knownRecord settings :: modules) := by
                    rw [collectModules, knownModule_eq_ok (List.all_eq_true.1 declarable),
                      Outcome.ok_bind, isRead]
                    rfl
                  obtain ⟨rfl, rfl⟩ := Prod.mk.inj (Option.some.inj found)
                  simp only [reads, pure_bind,
                    Run.perform_bind (Release.referenceDocuments _ _ _), fetches, collects]
                  rfl
              · cases found

/-- A run whose computed preparation passes a check prepares something that passes it. -/
theorem exists_prepared {web : Web} {version path : String} {start : Workspace}
    (passes : Preparation → Workspace → Bool)
    (checked : ((preparation? web version path start).any fun found =>
      passes found.1 found.2) = true) :
    ∃ prepared middle, (prepare web [version, path]).perform start = (.ok prepared, middle) ∧
      passes prepared middle = true := by
  obtain ⟨⟨prepared, middle⟩, found, passed⟩ := (Option.any_eq_true _ _).1 checked
  exact ⟨prepared, middle, perform_prepare_of_preparation found, passed⟩

/-- Whether the stubs of a preparation can be written, and what that leaves passes a check. -/
def replacesTo (passes : Preparation → Workspace → Bool) (prepared : Preparation)
    (middle : Workspace) : Bool :=
  match (replaceStubs prepared).perform middle with
  | (.ok _, finish) => passes prepared finish
  | (.error _, _) => false

/-- A run returns when its stubs can be written, and what it leaves passes a check that was computed
to be passed. -/
theorem exists_returned {web : Web} {version path : String} {start : Workspace}
    (passes : Preparation → Workspace → Bool)
    (checked : ((preparation? web version path start).any fun found =>
      replacesTo passes found.1 found.2) = true) :
    ∃ prepared finish, ((prepare web [version, path]).perform start).1 = .ok prepared ∧
      (generate web [version, path]).perform start = (.ok (), finish) ∧
      passes prepared finish = true := by
  obtain ⟨prepared, middle, prepares, replaces⟩ := exists_prepared (replacesTo passes) checked
  rw [replacesTo] at replaces
  split at replaces
  · next finish returns =>
      refine ⟨prepared, finish, by rw [prepares], ?_, replaces⟩
      rw [generate_eq_bind, Run.perform_bind, prepares]
      exact returns
  · cases replaces

/-! ## An input in which nothing is wrong -/

/-- Corrections that admit one namespace to the Lua stubs and none to the Teal stub. -/
def narrowCorrections (space : String) : String :=
  "\x7b\"lua\": \x7b\"allowed_namespaces\": [\"" ++ space ++ "\"]\x7d, " ++
    "\"teal\": \x7b\"allowed_namespaces\": []\x7d\x7d"

/-- A document that describes one function. -/
def functionDocument (space : String) : String :=
  "\x7b\"info\": \x7b\"namespace\": \"" ++ space ++ "\"\x7d, " ++
    "\"elements\": [\x7b\"type\": \"FUNCTION\", \"name\": \"go.get\"\x7d]\x7d"

/-- Answers that bring an archive with one document. -/
def documentAnswers (space : String) : Web := fun _ =>
  { body := .archive [("go_doc.json", (functionDocument space).toUTF8)] }

end Generation

end ApiStubs
