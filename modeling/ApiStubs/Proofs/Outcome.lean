import ApiStubs.Fault
import Mathlib.Data.List.Forall2

/-!
# Outcomes

What it takes for a computation that a fault can stop to give a result: every step before the
result gave one too. And where the fault of one that is stopped comes from: one of its steps met it.
These lemmas open a computation step by step, so that no later proof unfolds the steps themselves.
-/

namespace ApiStubs.Outcome

variable {α β : Type}

/-- A sequence of two steps gives a result exactly when both steps do. -/
theorem bind_eq_ok {first : Outcome α} {next : α → Outcome β} {result : β} :
    (first >>= next) = .ok result ↔ ∃ value, first = .ok value ∧ next value = .ok result := by
  cases first with
  | error fault => simp [bind, Except.bind]
  | ok value => simp [bind, Except.bind]

/-- A step that gives a value goes on with it. -/
theorem ok_bind (value : α) (next : α → Outcome β) :
    ((.ok value : Outcome α) >>= next) = next value := rfl

/-- A fault ends a sequence of steps. -/
theorem throw_bind (fault : Fault) (next : α → Outcome β) :
    ((throw fault : Outcome α) >>= next) = .error fault := rfl

/-- A step that only hands a value on gives that value. -/
theorem pure_eq_ok {value result : α} : (pure value : Outcome α) = .ok result ↔ value = result := by
  simp [pure, Except.pure]

/-- A changed result stems from a result. -/
theorem map_eq_ok {outcome : Outcome α} {change : α → β} {result : β} :
    outcome.map change = .ok result ↔ ∃ value, outcome = .ok value ∧ change value = result := by
  cases outcome <;> simp [Except.map]

/-- An outcome that is no fault holds a result. -/
theorem exists_of_isOk {outcome : Outcome α} (isOk : outcome.isOk = true) :
    ∃ result, outcome = .ok result := by
  cases outcome with
  | error fault => simp [Except.isOk, Except.toBool] at isOk
  | ok result => exact ⟨result, rfl⟩

/-- An outcome that holds a result is that result. -/
theorem toOption_eq_some {outcome : Outcome α} {result : α} :
    outcome.toOption = some result ↔ outcome = .ok result := by
  cases outcome <;> simp [Except.toOption]

/-- An outcome that holds a result, and not that there is none, is that result. -/
theorem toOption_join_eq_some {outcome : Outcome (Option α)} {result : α} :
    outcome.toOption.join = some result ↔ outcome = .ok (some result) := by
  rw [Option.join_eq_some_iff, toOption_eq_some]

/-- An outcome that is no fault and has a result holds it. -/
theorem exists_of_isSome {outcome : Outcome (Option α)}
    (present : outcome.toOption.join.isSome = true) : ∃ result, outcome = .ok (some result) :=
  (Option.isSome_iff_exists.1 present).imp fun _ found => toOption_join_eq_some.1 found

/-- A computation over a list gives the list of the results of its members. -/
theorem mapM_eq_ok {step : α → Outcome β} {members : List α} {results : List β} :
    members.mapM step = .ok results ↔
      List.Forall₂ (fun member result => step member = .ok result) members results := by
  induction members generalizing results with
  | nil => cases results <;> simp [pure, Except.pure]
  | cons member rest inductionHypothesis =>
      rw [List.mapM_cons]
      simp only [bind_eq_ok, pure_eq_ok]
      constructor
      · rintro ⟨result, first, others, later, rfl⟩
        exact .cons first (inductionHypothesis.1 later)
      · rintro (_ | ⟨first, later⟩)
        exact ⟨_, first, _, inductionHypothesis.2 later, rfl⟩

/-- A computation whose steps give changed members gives the changed list. -/
theorem mapM_eq_map {step : α → Outcome β} {change : α → β} {members : List α}
    (each : ∀ member ∈ members, step member = .ok (change member)) :
    members.mapM step = .ok (members.map change) := by
  rw [mapM_eq_ok, List.forall₂_map_right_iff]
  exact List.forall₂_same.2 each

/-- Whatever is matched with the members of a list is matched with one of them. -/
theorem exists_matched_left {relates : α → β → Prop} {members : List α} {results : List β}
    (matched : List.Forall₂ relates members results) {result : β} (among : result ∈ results) :
    ∃ member ∈ members, relates member result := by
  induction matched with
  | nil => simp at among
  | @cons member first members results related _ inductionHypothesis =>
      rcases List.mem_cons.1 among with rfl | later
      · exact ⟨member, List.mem_cons_self .., related⟩
      · obtain ⟨other, present, relatedLater⟩ := inductionHypothesis later
        exact ⟨other, List.mem_cons_of_mem _ present, relatedLater⟩

/-- Each member of a matched list is matched with something. -/
theorem exists_matched_right {relates : α → β → Prop} {members : List α} {results : List β}
    (matched : List.Forall₂ relates members results) {member : α} (among : member ∈ members) :
    ∃ result ∈ results, relates member result :=
  exists_matched_left matched.flip among

/-- The results of a computation over a list are those of its members. -/
theorem mem_mapM_iff {step : α → Outcome β} {members : List α} {results : List β}
    (returns : members.mapM step = .ok results) {result : β} :
    result ∈ results ↔ ∃ member ∈ members, step member = .ok result := by
  have matched := mapM_eq_ok.1 returns
  constructor
  · intro among
    exact exists_matched_left matched among
  · rintro ⟨member, among, gives⟩
    obtain ⟨other, present, givesOther⟩ := exists_matched_right matched among
    rw [gives] at givesOther
    exact Except.ok.inj givesOther ▸ present

/-- A computation over a list gives results with a property when its members do. -/
theorem exists_mapM {step : α → Outcome β} {holds : β → Prop} {members : List α}
    (each : ∀ member ∈ members, ∃ result, step member = .ok result ∧ holds result) :
    ∃ results, members.mapM step = .ok results ∧ ∀ result ∈ results, holds result := by
  induction members with
  | nil => exact ⟨[], rfl, by simp⟩
  | cons member rest inductionHypothesis =>
      obtain ⟨⟨result, first, held⟩, others⟩ := List.forall_mem_cons.1 each
      obtain ⟨results, later, heldLater⟩ := inductionHypothesis others
      refine ⟨result :: results, ?_, List.forall_mem_cons.2 ⟨held, heldLater⟩⟩
      rw [List.mapM_cons]
      simp only [bind_eq_ok, pure_eq_ok]
      exact ⟨result, first, results, later, rfl⟩

/-- A computation over a list gives results that are related to its members, one by one, when each
member gives such a result. -/
theorem exists_matched_mapM {step : α → Outcome β} {relates : α → β → Prop} {members : List α}
    (each : ∀ member ∈ members, ∃ result, step member = .ok result ∧ relates member result) :
    ∃ results, members.mapM step = .ok results ∧ List.Forall₂ relates members results := by
  induction members with
  | nil => exact ⟨[], rfl, .nil⟩
  | cons member rest inductionHypothesis =>
      obtain ⟨⟨result, first, related⟩, others⟩ := List.forall_mem_cons.1 each
      obtain ⟨results, later, relatedLater⟩ := inductionHypothesis others
      refine ⟨result :: results, ?_, .cons related relatedLater⟩
      rw [List.mapM_cons]
      simp only [bind_eq_ok, pure_eq_ok]
      exact ⟨result, first, results, later, rfl⟩

/-- A computation over a list gives results when its members do. -/
theorem exists_mapM_of_each {step : α → Outcome β} {members : List α}
    (each : ∀ member ∈ members, ∃ result, step member = .ok result) :
    ∃ results, members.mapM step = .ok results := by
  have always : ∀ member ∈ members, ∃ result, step member = .ok result ∧ True :=
    fun member among => (each member among).imp fun _ returns => ⟨returns, trivial⟩
  obtain ⟨results, returns, _⟩ := exists_mapM always
  exact ⟨results, returns⟩

/-- A computation of two steps over a list gives what the second step gives over the results of the
first. -/
theorem mapM_bind_eq_ok {γ : Type} {step : α → Outcome β} {next : β → Outcome γ}
    {members : List α} {results : List γ} :
    (members.mapM fun member => step member >>= next) = .ok results ↔
      (members.mapM step >>= fun between => between.mapM next) = .ok results := by
  induction members generalizing results with
  | nil => rfl
  | cons member rest inductionHypothesis =>
      simp only [List.mapM_cons, bind_eq_ok, pure_eq_ok, inductionHypothesis]
      constructor
      · rintro ⟨result, ⟨value, first, second⟩, others, ⟨values, firsts, seconds⟩, rfl⟩
        refine ⟨_, ⟨value, first, values, firsts, rfl⟩, ?_⟩
        rw [List.mapM_cons, second, ok_bind, seconds]
        rfl
      · rintro ⟨_, ⟨value, first, values, firsts, rfl⟩, both⟩
        simp only [List.mapM_cons, bind_eq_ok, pure_eq_ok] at both
        obtain ⟨result, second, others, seconds, rfl⟩ := both
        exact ⟨result, ⟨value, first, second⟩, others, ⟨values, firsts, seconds⟩, rfl⟩

/-- A computation over lists with the same members gives lists with the same results. -/
theorem exists_mapM_of_mem_iff {step : α → Outcome β} {members others : List α}
    {results : List β} (returns : members.mapM step = .ok results)
    (same : ∀ member, member ∈ members ↔ member ∈ others) :
    ∃ otherResults, others.mapM step = .ok otherResults ∧
      ∀ result, result ∈ results ↔ result ∈ otherResults := by
  obtain ⟨otherResults, returnsOther⟩ := exists_mapM_of_each fun member among => by
    obtain ⟨result, _, gives⟩ :=
      exists_matched_right (mapM_eq_ok.1 returns) ((same member).2 among)
    exact ⟨result, gives⟩
  refine ⟨otherResults, returnsOther, fun result => ?_⟩
  simp only [mem_mapM_iff returns, mem_mapM_iff returnsOther, same]

/-- A computation over a list gives the changed members when each step gives a changed member. -/
theorem eq_map_of_mapM {step : α → Outcome β} {change : α → β} {members : List α}
    {results : List β} (returns : members.mapM step = .ok results)
    (each : ∀ member ∈ members, ∀ result, step member = .ok result → result = change member) :
    results = members.map change := by
  have matched := mapM_eq_ok.1 returns
  clear returns
  induction matched with
  | nil => rfl
  | cons first _ inductionHypothesis =>
      obtain ⟨eachFirst, eachOther⟩ := List.forall_mem_cons.1 each
      rw [List.map_cons, eachFirst _ first, inductionHypothesis eachOther]

/-- Computations over a list agree when their steps agree on its members. -/
theorem mapM_congr {step other : α → Outcome β} {members : List α}
    (each : ∀ member ∈ members, step member = other member) :
    members.mapM step = members.mapM other := by
  induction members with
  | nil => rfl
  | cons member rest inductionHypothesis =>
      obtain ⟨first, others⟩ := List.forall_mem_cons.1 each
      rw [List.mapM_cons, List.mapM_cons, first, inductionHypothesis others]

/-- Computations over two lists agree when their steps agree on members that are matched. -/
theorem mapM_eq_of_forall₂ {γ : Type} {step : α → Outcome γ} {other : β → Outcome γ}
    {members : List α} {others : List β}
    (matched : List.Forall₂ (fun member matching => step member = other matching) members others) :
    members.mapM step = others.mapM other := by
  induction matched with
  | nil => rfl
  | cons first _ inductionHypothesis =>
      rw [List.mapM_cons, List.mapM_cons, first, inductionHypothesis]

/-- Folding a list gives a result exactly when every member passes the check of its step, and the
result is that of the unchecked changes. -/
theorem foldlM_eq_ok {step : β → α → Outcome β} {passes : α → Prop} {change : β → α → β}
    (stepwise : ∀ state member next,
      step state member = .ok next ↔ passes member ∧ change state member = next)
    {members : List α} {start result : β} :
    members.foldlM step start = .ok result ↔
      (∀ member ∈ members, passes member) ∧ members.foldl change start = result := by
  induction members generalizing start with
  | nil => simp [pure_eq_ok]
  | cons member rest inductionHypothesis =>
      rw [List.foldlM_cons, bind_eq_ok]
      constructor
      · rintro ⟨next, first, later⟩
        obtain ⟨passed, rfl⟩ := (stepwise start member next).1 first
        obtain ⟨others, rfl⟩ := inductionHypothesis.1 later
        exact ⟨List.forall_mem_cons.2 ⟨passed, others⟩, rfl⟩
      · rintro ⟨each, rfl⟩
        obtain ⟨passed, others⟩ := List.forall_mem_cons.1 each
        exact ⟨_, (stepwise start member _).2 ⟨passed, rfl⟩, inductionHypothesis.2 ⟨others, rfl⟩⟩

/-! ## Faults -/

/-- A sequence of two steps is stopped by a fault of the first, or by one of the second. -/
theorem bind_eq_error {first : Outcome α} {next : α → Outcome β} {fault : Fault} :
    (first >>= next) = .error fault ↔
      first = .error fault ∨ ∃ value, first = .ok value ∧ next value = .error fault := by
  cases first with
  | error other => simp [bind, Except.bind]
  | ok value => simp [bind, Except.bind]

/-- Handing a value on meets no fault. -/
theorem pure_ne_error {value : α} {fault : Fault} : (pure value : Outcome α) ≠ .error fault :=
  nofun

/-- The fault that stops a computation over a list is met at one of its members. -/
theorem exists_of_mapM_eq_error {step : α → Outcome β} {members : List α} {fault : Fault}
    (stops : members.mapM step = .error fault) :
    ∃ member ∈ members, step member = .error fault := by
  induction members with
  | nil => exact absurd stops pure_ne_error
  | cons member rest inductionHypothesis =>
      rw [List.mapM_cons, bind_eq_error] at stops
      rcases stops with first | ⟨result, _, later⟩
      · exact ⟨member, List.mem_cons_self .., first⟩
      · rcases bind_eq_error.1 later with others | ⟨results, _, handed⟩
        · obtain ⟨other, among, met⟩ := inductionHypothesis others
          exact ⟨other, List.mem_cons_of_mem _ among, met⟩
        · exact absurd handed pure_ne_error

end ApiStubs.Outcome
