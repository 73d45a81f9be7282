import ApiStubs.Fault

/-!
# Progress

What was read of a sequence before it ended or a fault was met. The members before the fault count:
by the time it is met they have been used.
-/

namespace ApiStubs

/-- What was read of a sequence before it ended or a fault was met. -/
structure Progress (α : Type) where
  done : List α
  fault? : Option Fault := none

namespace Progress

variable {α β : Type}

/-- Nothing read, and a fault met. -/
def failed (fault : Fault) : Progress α :=
  ⟨[], some fault⟩

/-- Everything read. -/
def complete (done : List α) : Progress α :=
  ⟨done, none⟩

/-- Go on with the next part unless a fault was met. -/
def andThen (first second : Progress α) : Progress α :=
  match first.fault? with
  | some _ => first
  | none => ⟨first.done ++ second.done, second.fault?⟩

/-- One part after the other, until a fault is met. -/
def concat (parts : List (Progress α)) : Progress α :=
  parts.foldr andThen (complete [])

/-- The same progress over changed members. -/
def map (change : α → β) (progress : Progress α) : Progress β :=
  ⟨progress.done.map change, progress.fault?⟩

/-- The complete sequence, or the fault. -/
def toOutcome (progress : Progress α) : Outcome (List α) :=
  match progress.fault? with
  | some fault => .error fault
  | none => .ok progress.done

/-- One part for every member of a computed list. -/
def ofOutcome (outcome : Outcome (List β)) (part : β → Progress α) : Progress α :=
  match outcome with
  | .ok members => concat (members.map part)
  | .error fault => failed fault

end Progress

end ApiStubs
