import ApiStubs.Proofs.Reference.Placement
import ApiStubs.Teal.File

/-!
# Watching declarations

The way through the groups can be taken while a record is kept of the declarations asked for. A
watched computation gives the same result, or stops at the same fault, as the one that is not
watched; what is added to the record is described by a condition on the result and the additions.
-/

namespace ApiStubs.Teal

open ApiStubs.Reference

/-- A declaration that was asked for. -/
structure Call where
  kind : Kind
  element : Value
  fullName : String
  isOutermost : Bool

/-- A computation that keeps a record of the declarations asked for. -/
abbrev Watched := StateT (List Call) Outcome

/-- Declare, and record what was asked for. -/
def watch (declare : Declare Outcome) : Declare Watched :=
  fun kind element fullName isOutermost => do
    modify fun calls => calls ++ [{ kind, element, fullName, isOutermost }]
    declare kind element fullName isOutermost

/-- A declaration that was asked for and made, or found not to be one. -/
def Call.IsAnswered (declare : Declare Outcome) (call : Call) : Prop :=
  ∃ declared?, declare call.kind call.element call.fullName call.isOutermost = .ok declared?

/-- A watched computation that does what an unwatched one does. When there is a result, all that it
adds to the record was answered, and the result and the additions meet a condition. -/
def Watches (declare : Declare Outcome) {α : Type} (watched : Watched α) (plain : Outcome α)
    (meets : α → List Call → Prop) : Prop :=
  ∀ before,
    (∀ fault, plain = .error fault → watched.run before = .error fault) ∧
    ∀ value, plain = .ok value →
      ∃ calls, watched.run before = .ok (value, before ++ calls) ∧
        (∀ call ∈ calls, call.IsAnswered declare) ∧ meets value calls

namespace Watches

variable {declare : Declare Outcome} {α β : Type}

/-- What a watched computation gives is what the unwatched one gives. -/
theorem of_run {watched : Watched α} {plain : Outcome α} {meets : α → List Call → Prop}
    (watches : Watches declare watched plain meets) {value : α} {calls : List Call}
    (run : watched.run [] = .ok (value, calls)) :
    plain = .ok value ∧ (∀ call ∈ calls, call.IsAnswered declare) ∧ meets value calls := by
  obtain ⟨stops, runs⟩ := watches []
  cases outcome : plain with
  | error fault => cases (stops fault outcome).symm.trans run
  | ok result =>
      obtain ⟨added, same, answered, met⟩ := runs result outcome
      cases same.symm.trans run
      exact ⟨rfl, answered, met⟩

/-- Handing a value on adds nothing. -/
theorem pure {value : α} {meets : α → List Call → Prop} (met : meets value []) :
    Watches declare (Pure.pure value) (Pure.pure value) meets := by
  intro before
  refine ⟨fun fault stops => (nomatch stops), fun result returns => ?_⟩
  obtain rfl := Outcome.pure_eq_ok.1 returns
  exact ⟨[], by rw [List.append_nil]; rfl, by simp, met⟩

/-- Of two steps the second one adds behind the first. -/
theorem bind {watched : Watched α} {plain : Outcome α} {first : α → List Call → Prop}
    {watchedNext : α → Watched β} {plainNext : α → Outcome β} {meets : β → List Call → Prop}
    (start : Watches declare watched plain first)
    (next : ∀ value calls, plain = .ok value → first value calls →
      Watches declare (watchedNext value) (plainNext value) fun result later =>
        meets result (calls ++ later)) :
    Watches declare (watched >>= watchedNext) (plain >>= plainNext) meets := by
  intro before
  obtain ⟨stopsFirst, runsFirst⟩ := start before
  cases outcome : plain with
  | error fault =>
      refine ⟨fun other stops => ?_, fun result returns => (nomatch returns)⟩
      obtain rfl : fault = other := Except.error.inj stops
      rw [StateT.run_bind, stopsFirst fault outcome]
      rfl
  | ok value =>
      obtain ⟨calls, run, answered, met⟩ := runsFirst value outcome
      obtain ⟨stopsNext, runsNext⟩ := next value calls outcome met (before ++ calls)
      rw [StateT.run_bind, run]
      refine ⟨stopsNext, fun result returns => ?_⟩
      obtain ⟨later, runLater, answeredLater, metLater⟩ := runsNext result returns
      exact ⟨calls ++ later, by rw [← List.append_assoc]; exact runLater,
        List.forall_mem_append.2 ⟨answered, answeredLater⟩, metLater⟩

/-- A condition that follows from the one met is met. -/
theorem mono {watched : Watched α} {plain : Outcome α} {meets weaker : α → List Call → Prop}
    (watches : Watches declare watched plain meets)
    (implies : ∀ value calls, meets value calls → weaker value calls) :
    Watches declare watched plain weaker := by
  intro before
  refine ⟨(watches before).1, fun value returns => ?_⟩
  obtain ⟨calls, run, answered, met⟩ := (watches before).2 value returns
  exact ⟨calls, run, answered, implies value calls met⟩

/-- A computation in which nothing is declared adds nothing. -/
theorem lift (plain : Outcome α) :
    Watches declare (liftM plain) plain fun value calls => plain = .ok value ∧ calls = [] := by
  intro before
  cases outcome : plain with
  | error fault =>
      refine ⟨fun other stops => ?_, fun result returns => (nomatch returns)⟩
      obtain rfl : fault = other := Except.error.inj stops
      rfl
  | ok value =>
      refine ⟨fun fault stops => (nomatch stops), fun result returns => ?_⟩
      obtain rfl : value = result := Except.ok.inj returns
      exact ⟨[], by rw [List.append_nil]; rfl, by simp, rfl, rfl⟩

/-- Declaring adds the declaration asked for. -/
theorem watch (declare : Declare Outcome) (kind : Kind) (element : Value) (fullName : String)
    (isOutermost : Bool) :
    Watches declare (watch declare kind element fullName isOutermost)
      (declare kind element fullName isOutermost)
      fun _ calls => calls = [{ kind, element, fullName, isOutermost }] := by
  intro before
  cases outcome : declare kind element fullName isOutermost with
  | error fault =>
      refine ⟨fun other stops => ?_, fun result returns => (nomatch returns)⟩
      obtain rfl : fault = other := Except.error.inj stops
      simp only [Teal.watch, outcome]
      rfl
  | ok value =>
      refine ⟨fun fault stops => (nomatch stops), fun result returns => ?_⟩
      obtain rfl : value = result := Except.ok.inj returns
      refine ⟨[⟨kind, element, fullName, isOutermost⟩], ?_, ?_, rfl⟩
      · simp only [Teal.watch, outcome]
        rfl
      · intro call member
        rw [List.mem_singleton.1 member]
        exact ⟨_, outcome⟩

end Watches

end ApiStubs.Teal
