import ApiStubs.Proofs.Outcome
import ApiStubs.Run

/-!
# What runs do

A run is followed step by step in four ways.

- The lemmas `perform_*_eq_ok` say what it takes for a run to return, and what it leaves behind:
  every step before the end returned, each from the workspace that the one before it left.
- The lemmas `perform_*_eq_error` say which step met the fault that ends a run, and where.
- `Keeps` says that a run keeps a property of the disk, whether it returns or a fault ends it.
- `OnlyPrints` says that a run neither reads nor changes the disk.
-/

namespace ApiStubs.Run

variable {α β : Type} {start finish : Workspace}

/-- The second of two steps starts where the first one returned; a fault of the first ends both. -/
theorem perform_bind (first : Run α) (next : α → Run β) (start : Workspace) :
    (first >>= next).perform start =
      match first.perform start with
      | (.ok value, middle) => (next value).perform middle
      | (.error fault, middle) => (.error fault, middle) := by
  simp only [perform, ExceptT.run_bind, StateT.run_bind]
  obtain ⟨outcome, middle⟩ := StateT.run (ExceptT.run first) start
  cases outcome <;> rfl

/-! ## Runs that return -/

/-- A sequence of two steps returns exactly when both steps do. -/
theorem perform_bind_eq_ok {first : Run α} {next : α → Run β} {result : β} :
    (first >>= next).perform start = (.ok result, finish) ↔
      ∃ value middle, first.perform start = (.ok value, middle) ∧
        (next value).perform middle = (.ok result, finish) := by
  rw [perform_bind]
  obtain ⟨outcome, middle⟩ := first.perform start
  cases outcome <;> simp

/-- A step that only hands a value on changes nothing. -/
theorem perform_pure_eq_ok {value result : α} :
    (pure value : Run α).perform start = (.ok result, finish) ↔
      value = result ∧ start = finish := by
  have opened : (pure value : Run α).perform start = (.ok value, start) := rfl
  simp [opened]

/-- A computation without effects changes nothing. -/
theorem perform_ofOutcome_eq_ok {outcome : Outcome α} {result : α} :
    (ofOutcome outcome).perform start = (.ok result, finish) ↔
      outcome = .ok result ∧ start = finish := by
  have opened : (ofOutcome outcome).perform start = (outcome, start) := rfl
  simp [opened]

/-- A computation without effects that gives a value goes on with it. -/
theorem ofOutcome_ok_bind (value : α) (next : α → Run β) :
    (ofOutcome (.ok value) >>= next) = next value := rfl

/-- A step whose result is not used returns when the step does. -/
theorem perform_discard_eq_ok {action : Run α} {result : Unit} :
    (discard action).perform start = (.ok result, finish) ↔
      ∃ value, action.perform start = (.ok value, finish) := by
  have opened : discard action = (action >>= fun _ => pure ()) := rfl
  simp only [opened, perform_bind_eq_ok, perform_pure_eq_ok, true_and]
  constructor
  · rintro ⟨value, middle, returns, rfl⟩
    exact ⟨value, returns⟩
  · rintro ⟨value, returns⟩
    exact ⟨value, finish, returns, rfl⟩

/-- A change of the workspace leaves the changed one. -/
theorem perform_modify_eq_ok {change : Workspace → Workspace} {result : Unit} :
    (modify change : Run Unit).perform start = (.ok result, finish) ↔ change start = finish := by
  have opened : (modify change : Run Unit).perform start = (.ok (), change start) := rfl
  simp [opened]

/-- Printing adds to what has been printed. -/
theorem perform_print_eq_ok {text : String} {result : Unit} :
    (print text).perform start = (.ok result, finish) ↔
      { start with printed := start.printed ++ [text] } = finish :=
  perform_modify_eq_ok

/-- Saving writes the file that the path leads to, if it leads to one. -/
theorem perform_save (path content : String) (start : Workspace) :
    (save path content).perform start =
      match start.disk.locateFile path with
      | .error fault => (.error fault, start)
      | .ok location => (.ok (), { start with disk := start.disk.put location content }) := by
  have opened : (save path content).perform start =
      Run.perform (ofOutcome (start.disk.writeFile path content) >>= fun disk =>
        modify fun workspace => { workspace with disk }) start := rfl
  rw [opened, Disk.writeFile]
  cases start.disk.locateFile path <;> rfl

/-- Saving returns when the path leads to a file. -/
theorem perform_save_eq_ok {path content : String} {result : Unit} :
    (save path content).perform start = (.ok result, finish) ↔
      ∃ location, start.disk.locateFile path = .ok location ∧
        { start with disk := start.disk.put location content } = finish := by
  rw [perform_save]
  cases start.disk.locateFile path <;> simp

/-- A change of the disk stays, and its fault ends the run. -/
theorem perform_changeDisk (change : Disk → Disk × Option Fault) (start : Workspace) :
    (changeDisk change).perform start =
      (match (change start.disk).2 with
        | some fault => .error fault
        | none => .ok (), { start with disk := (change start.disk).1 }) := by
  have opened : (changeDisk change).perform start =
      Run.perform (match (change start.disk).2 with
        | some fault => throw fault
        | none => return ()) { start with disk := (change start.disk).1 } := rfl
  rw [opened]
  cases (change start.disk).2 <;> rfl

/-- A change of the disk returns when it meets no fault. -/
theorem perform_changeDisk_eq_ok {change : Disk → Disk × Option Fault} {result : Unit} :
    (changeDisk change).perform start = (.ok result, finish) ↔
      ∃ disk, change start.disk = (disk, none) ∧ { start with disk } = finish := by
  rw [perform_changeDisk]
  obtain ⟨disk, fault?⟩ := change start.disk
  cases fault? <;> simp

/-- In a run over a list that returns, the step of each member returned. -/
theorem exists_step_of_foldlM {step : β → α → Run β} {members : List α} {state result : β}
    (returns : (members.foldlM step state).perform start = (.ok result, finish)) {member : α}
    (among : member ∈ members) :
    ∃ before reached middle next later, before ⊆ members ∧
      (before.foldlM step state).perform start = (.ok reached, middle) ∧
      (step reached member).perform middle = (.ok next, later) := by
  obtain ⟨before, after, rfl⟩ := List.append_of_mem among
  rw [List.foldlM_append, perform_bind_eq_ok] at returns
  obtain ⟨reached, middle, first, rest⟩ := returns
  rw [List.foldlM_cons, perform_bind_eq_ok] at rest
  obtain ⟨next, later, own, _⟩ := rest
  exact ⟨before, reached, middle, next, later, List.subset_append_left .., first, own⟩

/-! ## Runs that a fault ends -/

/-- A sequence of two steps is ended by a fault of the first, or by one of the second where the
first returned. -/
theorem perform_bind_eq_error {first : Run α} {next : α → Run β} {fault : Fault} :
    (first >>= next).perform start = (.error fault, finish) ↔
      first.perform start = (.error fault, finish) ∨
        ∃ value middle, first.perform start = (.ok value, middle) ∧
          (next value).perform middle = (.error fault, finish) := by
  rw [perform_bind]
  obtain ⟨outcome, middle⟩ := first.perform start
  cases outcome <;> simp

/-- Handing a value on meets no fault. -/
theorem perform_pure_ne_error {value : α} {fault : Fault} :
    (pure value : Run α).perform start ≠ (.error fault, finish) := by
  intro stops
  cases congrArg Prod.fst stops

/-- Printing meets no fault. -/
theorem perform_print_ne_error {text : String} {fault : Fault} :
    (print text).perform start ≠ (.error fault, finish) := by
  intro stops
  cases congrArg Prod.fst stops

/-- A computation without effects that meets a fault changes nothing. -/
theorem perform_ofOutcome_eq_error {outcome : Outcome α} {fault : Fault} :
    (ofOutcome outcome).perform start = (.error fault, finish) ↔
      outcome = .error fault ∧ start = finish := by
  have opened : (ofOutcome outcome).perform start = (outcome, start) := rfl
  simp [opened]

/-- Saving meets the fault of a path that leads to no file, and changes nothing then. -/
theorem perform_save_eq_error {path content : String} {fault : Fault} :
    (save path content).perform start = (.error fault, finish) ↔
      start.disk.locateFile path = .error fault ∧ start = finish := by
  rw [perform_save]
  cases start.disk.locateFile path <;> simp

/-- A run over a list is ended by the first member that meets a fault, where the members before it
left the workspace. -/
theorem exists_step_of_foldlM_eq_error {step : β → α → Run β} {members : List α} {state : β}
    {fault : Fault} (stops : (members.foldlM step state).perform start = (.error fault, finish)) :
    ∃ before member after reached middle, members = before ++ member :: after ∧
      (before.foldlM step state).perform start = (.ok reached, middle) ∧
      (step reached member).perform middle = (.error fault, finish) := by
  induction members generalizing state start with
  | nil => exact absurd stops perform_pure_ne_error
  | cons member rest inductionHypothesis =>
      rw [List.foldlM_cons, perform_bind_eq_error] at stops
      rcases stops with own | ⟨next, middle, first, later⟩
      · exact ⟨[], member, rest, state, start, rfl, rfl, own⟩
      · obtain ⟨before, other, after, reached, left, rfl, others, met⟩ :=
          inductionHypothesis later
        refine ⟨member :: before, other, after, reached, left, rfl, ?_, met⟩
        rw [List.foldlM_cons, perform_bind_eq_ok]
        exact ⟨next, middle, first, others⟩

/-! ## What a run keeps -/

/-- A run keeps a property of the disk, whether it returns or a fault ends it. -/
def Keeps (holds : Disk → Prop) (action : Run α) : Prop :=
  ∀ start, holds start.disk → holds (action.perform start).2.disk

section Keeps

variable {holds : Disk → Prop}

/-- A step that only hands a value on keeps every property. -/
theorem keeps_pure (value : α) : Keeps holds (pure value) :=
  fun _ held => held

/-- A computation without effects keeps every property. -/
theorem keeps_ofOutcome (outcome : Outcome α) : Keeps holds (ofOutcome outcome) :=
  fun _ held => held

/-- Printing keeps every property of the disk. -/
theorem keeps_print (text : String) : Keeps holds (print text) :=
  fun _ held => held

/-- Two steps keep a property when both do. -/
theorem Keeps.bind {first : Run α} {next : α → Run β} (keepsFirst : Keeps holds first)
    (keepsNext : ∀ value, Keeps holds (next value)) : Keeps holds (first >>= next) := by
  intro start held
  have middle := keepsFirst start held
  rw [perform_bind]
  generalize first.perform start = performed at middle ⊢
  obtain ⟨outcome, workspace⟩ := performed
  cases outcome with
  | error fault => exact middle
  | ok value => exact keepsNext value workspace middle

/-- A step whose result is not used keeps what the step keeps. -/
theorem Keeps.discard {action : Run α} (keeps : Keeps holds action) :
    Keeps holds (discard action) :=
  keeps.bind fun _ => keeps_pure ()

/-- What follows a computation without effects has to keep a property for its result alone. -/
theorem keeps_ofOutcome_bind {outcome : Outcome α} {next : α → Run β}
    (keepsNext : ∀ value, outcome = .ok value → Keeps holds (next value)) :
    Keeps holds (ofOutcome outcome >>= next) := by
  cases outcome with
  | error fault => exact fun _ held => held
  | ok value => exact keepsNext value rfl

/-- A run over a list keeps a property when each of its steps does. -/
theorem keeps_foldlM {step : β → α → Run β} {members : List α}
    (each : ∀ member ∈ members, ∀ state, Keeps holds (step state member)) (state : β) :
    Keeps holds (members.foldlM step state) := by
  induction members generalizing state with
  | nil => exact keeps_pure state
  | cons member rest inductionHypothesis =>
      obtain ⟨first, others⟩ := List.forall_mem_cons.1 each
      exact (first state).bind fun next => inductionHypothesis others next

/-- A change of the disk keeps what the change itself keeps. -/
theorem keeps_changeDisk {change : Disk → Disk × Option Fault}
    (keeps : ∀ disk, holds disk → holds (change disk).1) : Keeps holds (changeDisk change) := by
  intro start held
  rw [perform_changeDisk]
  exact keeps start.disk held

/-- Saving keeps what the writing of the file that the path leads to keeps. -/
theorem keeps_save {path content : String}
    (writes : ∀ disk location, holds disk → disk.locateFile path = .ok location →
      holds (disk.put location content)) : Keeps holds (save path content) := by
  intro start held
  rw [perform_save]
  cases located : start.disk.locateFile path with
  | error fault => exact held
  | ok location => exact writes start.disk location held located

end Keeps

/-! ## Runs that only print -/

/-- A run only prints: what it returns and prints does not depend on the workspace, and nothing else
of the workspace changes. -/
def OnlyPrints (action : Run α) : Prop :=
  ∃ outcome lines, ∀ start,
    action.perform start = (outcome, { start with printed := start.printed ++ lines })

/-- A computation without effects prints nothing. -/
theorem onlyPrints_ofOutcome (outcome : Outcome α) : OnlyPrints (ofOutcome outcome) := by
  refine ⟨outcome, [], fun start => ?_⟩
  rw [List.append_nil]
  rfl

/-- A step that only hands a value on prints nothing. -/
theorem onlyPrints_pure (value : α) : OnlyPrints (pure value) :=
  onlyPrints_ofOutcome (.ok value)

/-- A fault prints nothing. -/
theorem onlyPrints_throw (fault : Fault) : OnlyPrints (throw fault : Run α) :=
  onlyPrints_ofOutcome (.error fault)

/-- Printing only prints. -/
theorem onlyPrints_print (text : String) : OnlyPrints (print text) :=
  ⟨.ok (), [text], fun _ => rfl⟩

/-- Two steps only print when both do. -/
theorem OnlyPrints.bind {first : Run α} {next : α → Run β} (printsFirst : OnlyPrints first)
    (printsNext : ∀ value, OnlyPrints (next value)) : OnlyPrints (first >>= next) := by
  obtain ⟨outcome, lines, performed⟩ := printsFirst
  cases outcome with
  | error fault =>
      refine ⟨.error fault, lines, fun start => ?_⟩
      rw [perform_bind, performed start]
  | ok value =>
      obtain ⟨later, others, performedNext⟩ := printsNext value
      refine ⟨later, lines ++ others, fun start => ?_⟩
      rw [perform_bind, performed start, ← List.append_assoc]
      exact performedNext _

end ApiStubs.Run
