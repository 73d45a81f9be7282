import ApiStubs.Proofs.Outcome
import Mathlib.Data.List.Perm.Basic

/-!
# Rearranged lists

Lists that hold the same members in another order, where members that stand for each other need not
be equal. What treats members that stand for each other alike treats rearranged lists alike: it
gives rearranged lists, or it is stopped by the same fault. A computation over a list is stopped by
the fault of its first faulty member, so its order matters for the fault unless all faulty members
have the same one.
-/

namespace ApiStubs

variable {α β γ δ : Type}

/-- The members of one list, in some order, stand for those of another. -/
def IsRearranged (relates : α → β → Prop) (members : List α) (others : List β) : Prop :=
  ∃ middle, members.Perm middle ∧ List.Forall₂ relates middle others

namespace IsRearranged

variable {relates : α → β → Prop} {members : List α} {others : List β}

/-- Another order of the first list changes nothing. -/
theorem perm_trans {reordered : List α} (same : reordered.Perm members)
    (rearranged : IsRearranged relates members others) :
    IsRearranged relates reordered others := by
  obtain ⟨middle, perm, related⟩ := rearranged
  exact ⟨middle, same.trans perm, related⟩

/-- Another order of the second list changes nothing. -/
theorem trans_perm {reordered : List β} (rearranged : IsRearranged relates members others)
    (same : others.Perm reordered) : IsRearranged relates members reordered := by
  obtain ⟨middle, perm, related⟩ := rearranged
  have followed : Relation.Comp (List.Forall₂ relates) List.Perm middle reordered :=
    ⟨others, related, same⟩
  rw [List.forall₂_comp_perm_eq_perm_comp_forall₂] at followed
  obtain ⟨next, permNext, relatedNext⟩ := followed
  exact ⟨next, perm.trans permNext, relatedNext⟩

/-- Rearranged lists have as many members. -/
theorem length_eq (rearranged : IsRearranged relates members others) :
    members.length = others.length := by
  obtain ⟨middle, perm, related⟩ := rearranged
  rw [perm.length_eq, related.length_eq]

/-- Each member stands for one of the other list. -/
theorem exists_right (rearranged : IsRearranged relates members others) {member : α}
    (among : member ∈ members) : ∃ other ∈ others, relates member other := by
  obtain ⟨middle, perm, related⟩ := rearranged
  exact Outcome.exists_matched_right related (perm.mem_iff.1 among)

/-- Each member of the other list is stood for. -/
theorem exists_left (rearranged : IsRearranged relates members others) {other : β}
    (among : other ∈ others) : ∃ member ∈ members, relates member other := by
  obtain ⟨middle, perm, related⟩ := rearranged
  obtain ⟨member, present, same⟩ := Outcome.exists_matched_left related among
  exact ⟨member, perm.mem_iff.2 present, same⟩

/-- A condition that members standing for each other meet alike is met by some member of both lists
or of neither. -/
theorem any_eq {isMet : α → Bool} {isMetOther : β → Bool}
    (rearranged : IsRearranged relates members others)
    (alike : ∀ member other, relates member other → isMet member = isMetOther other) :
    members.any isMet = others.any isMetOther := by
  rw [Bool.eq_iff_iff, List.any_eq_true, List.any_eq_true]
  constructor
  · rintro ⟨member, among, met⟩
    obtain ⟨other, present, related⟩ := rearranged.exists_right among
    exact ⟨other, present, alike member other related ▸ met⟩
  · rintro ⟨other, among, met⟩
    obtain ⟨member, present, related⟩ := rearranged.exists_left among
    exact ⟨member, present, (alike member other related).trans met⟩

/-- A change that keeps members standing for each other keeps lists rearranged. -/
theorem map {relatesChanged : γ → δ → Prop} {change : α → γ} {changeOther : β → δ}
    (rearranged : IsRearranged relates members others)
    (keeps : ∀ member other, relates member other →
      relatesChanged (change member) (changeOther other)) :
    IsRearranged relatesChanged (members.map change) (others.map changeOther) := by
  obtain ⟨middle, perm, related⟩ := rearranged
  refine ⟨middle.map change, perm.map change, ?_⟩
  rw [List.forall₂_map_left_iff, List.forall₂_map_right_iff]
  exact related.imp keeps

/-- A condition that members standing for each other meet alike keeps lists rearranged. -/
theorem filter {isKept : α → Bool} {isKeptOther : β → Bool}
    (rearranged : IsRearranged relates members others)
    (alike : ∀ member other, relates member other → isKept member = isKeptOther other) :
    IsRearranged relates (members.filter isKept) (others.filter isKeptOther) := by
  obtain ⟨middle, perm, related⟩ := rearranged
  refine ⟨middle.filter isKept, perm.filter isKept, List.rel_filter (fun _ _ same => ?_) related⟩
  exact Bool.eq_iff_iff.1 (alike _ _ same)

/-- Dropping members that stand for each other keeps lists rearranged. -/
theorem reduceOption {lists : List (Option α)} {otherLists : List (Option β)}
    (rearranged : IsRearranged (Option.Rel relates) lists otherLists) :
    IsRearranged relates lists.reduceOption otherLists.reduceOption := by
  obtain ⟨middle, perm, related⟩ := rearranged
  exact ⟨middle.reduceOption, perm.filterMap id, List.rel_filterMap (fun _ _ same => same) related⟩

/-- Rearranged lists of rearranged lists hold rearranged members. -/
theorem flatten {lists : List (List α)} {otherLists : List (List β)}
    (rearranged : IsRearranged (IsRearranged relates) lists otherLists) :
    IsRearranged relates lists.flatten otherLists.flatten := by
  obtain ⟨middle, perm, related⟩ := rearranged
  refine perm_trans perm.flatten ?_
  clear perm
  induction related with
  | nil => exact ⟨[], .nil, .nil⟩
  | cons first _ inductionHypothesis =>
      obtain ⟨here, permHere, relatedHere⟩ := first
      obtain ⟨later, permLater, relatedLater⟩ := inductionHypothesis
      exact ⟨here ++ later, permHere.append permLater, List.rel_append relatedHere relatedLater⟩

/-- Rearranged lists that stand in order stand for each other one by one, when the order tells all
members apart. -/
theorem forall₂_of_pairwise {precedes : α → α → Prop} {precedesOther : β → β → Prop}
    (rearranged : IsRearranged relates members others) (ordered : members.Pairwise precedes)
    (orderedOthers : others.Pairwise precedesOther)
    (agree : ∀ {member other next nextOther}, relates member other → relates next nextOther →
      precedesOther other nextOther → precedes member next)
    (antisymm : ∀ member ∈ members, ∀ next ∈ members, precedes member next → precedes next member →
      member = next) :
    List.Forall₂ relates members others := by
  obtain ⟨middle, perm, related⟩ := rearranged
  have orderedMiddle : middle.Pairwise precedes := by
    clear perm
    induction related with
    | nil => exact .nil
    | @cons member other rest otherRest first later inductionHypothesis =>
        obtain ⟨above, orderedRest⟩ := List.pairwise_cons.1 orderedOthers
        refine .cons (fun next among => ?_) (inductionHypothesis orderedRest)
        obtain ⟨nextOther, present, relatedNext⟩ := Outcome.exists_matched_right later among
        exact agree first relatedNext (above nextOther present)
  have same : members = middle := perm.eq_of_pairwise
    (fun member next among present => antisymm member among next (perm.mem_iff.2 present)) ordered
    orderedMiddle
  rwa [same]

end IsRearranged

namespace Outcome

/-- Outcomes that are both one fault, or results that stand for each other. -/
inductive Agrees (only : Fault) (relates : α → β → Prop) : Outcome α → Outcome β → Prop
  | ok {value : α} {other : β} (related : relates value other) :
      Agrees only relates (.ok value) (.ok other)
  | fault : Agrees only relates (.error only) (.error only)

namespace Agrees

variable {only : Fault} {relates : α → β → Prop} {first : Outcome α} {second : Outcome β}

/-- Steps that agree on what stands for each other agree behind outcomes that agree. -/
theorem bind {relatesNext : γ → δ → Prop} {next : α → Outcome γ} {nextOther : β → Outcome δ}
    (agrees : Agrees only relates first second)
    (agreesNext : ∀ value other, relates value other →
      Agrees only relatesNext (next value) (nextOther other)) :
    Agrees only relatesNext (first >>= next) (second >>= nextOther) := by
  cases agrees with
  | ok related => exact agreesNext _ _ related
  | fault => exact .fault

/-- Steps that do the same with what stands for each other do the same behind outcomes that
agree. -/
theorem bind_eq {next : α → Outcome γ} {nextOther : β → Outcome γ}
    (agrees : Agrees only relates first second)
    (equal : ∀ value other, relates value other → next value = nextOther other) :
    first >>= next = second >>= nextOther := by
  cases agrees with
  | ok related => exact equal _ _ related
  | fault => rfl

/-- Outcomes that agree also agree in what follows from that. -/
theorem mono {weaker : α → β → Prop} (agrees : Agrees only relates first second)
    (implies : ∀ value other, relates value other → weaker value other) :
    Agrees only weaker first second := by
  cases agrees with
  | ok related => exact .ok (implies _ _ related)
  | fault => exact .fault

/-- Agreement is passed on. -/
theorem trans {relatesNext : β → γ → Prop} {third : Outcome γ}
    (agrees : Agrees only relates first second)
    (agreesNext : Agrees only relatesNext second third) :
    Agrees only (Relation.Comp relates relatesNext) first third := by
  cases agrees with
  | ok related =>
      cases agreesNext with
      | ok relatedNext => exact .ok ⟨_, related, relatedNext⟩
  | fault =>
      cases agreesNext
      exact .fault

/-- Outcomes that agree are results that stand for each other, or both the one fault. -/
theorem exists_or (agrees : Agrees only relates first second) :
    (∃ value other, first = .ok value ∧ second = .ok other ∧ relates value other) ∨
      first = .error only ∧ second = .error only := by
  cases agrees with
  | ok related => exact .inl ⟨_, _, rfl, rfl, related⟩
  | fault => exact .inr ⟨rfl, rfl⟩

/-- An outcome that agrees with any other has no fault but the one. -/
theorem left (agrees : Agrees only relates first second) : Agrees only Eq first first := by
  cases agrees with
  | ok _ => exact .ok rfl
  | fault => exact .fault

/-- Members that stand for each other one by one give results that do. -/
theorem mapM_forall₂ {results : γ → δ → Prop} {step : α → Outcome γ} {stepOther : β → Outcome δ}
    {members : List α} {others : List β} (related : List.Forall₂ relates members others)
    (agrees : ∀ member other, relates member other →
      Agrees only results (step member) (stepOther other)) :
    Agrees only (List.Forall₂ results) (members.mapM step) (others.mapM stepOther) := by
  induction related with
  | nil => exact .ok .nil
  | cons same _ inductionHypothesis =>
      rw [List.mapM_cons, List.mapM_cons]
      exact (agrees _ _ same).bind fun _ _ here =>
        inductionHypothesis.bind fun _ _ later => .ok (.cons here later)

/-- A computation over a list has no other fault than its members. -/
theorem mapM_self {step : α → Outcome γ} {members : List α}
    (each : ∀ member ∈ members, Agrees only Eq (step member) (step member)) :
    Agrees only Eq (members.mapM step) (members.mapM step) := by
  induction members with
  | nil => exact .ok rfl
  | cons member rest inductionHypothesis =>
      obtain ⟨first, others⟩ := List.forall_mem_cons.1 each
      rw [List.mapM_cons]
      exact first.bind fun _ _ here =>
        (inductionHypothesis others).bind fun _ _ later => .ok (by rw [here, later])

/-- A computation over a list gives its results in the order of the members, when no member has
another fault than the one. -/
theorem mapM_perm {step : α → Outcome γ} {members others : List α} (same : members.Perm others)
    (each : ∀ member ∈ members, Agrees only Eq (step member) (step member)) :
    Agrees only List.Perm (members.mapM step) (others.mapM step) := by
  induction same with
  | nil => exact .ok .nil
  | cons member _ inductionHypothesis =>
      obtain ⟨first, others⟩ := List.forall_mem_cons.1 each
      rw [List.mapM_cons, List.mapM_cons]
      exact first.bind fun result _ here =>
        (inductionHypothesis others).bind fun _ _ later => .ok (here ▸ later.cons result)
  | swap member next rest =>
      obtain ⟨ofNext, ofMember, others⟩ := by simpa only [List.forall_mem_cons] using each
      simp only [List.mapM_cons]
      -- Whichever of the two comes first, the fault of either is the one.
      cases here : step member with
      | error fault =>
          rw [here] at ofMember
          cases ofMember
          cases later : step next with
          | error fault =>
              rw [later] at ofNext
              cases ofNext
              exact .fault
          | ok _ => exact .fault
      | ok _ =>
          cases later : step next with
          | error fault =>
              rw [later] at ofNext
              cases ofNext
              exact .fault
          | ok _ =>
              simp only [ok_bind, bind_assoc, pure_bind]
              refine (mapM_self others).bind fun results _ equal => .ok ?_
              rw [← equal]
              exact List.Perm.swap ..
  | trans same _ first second =>
      have eachMiddle := fun member among => each member (same.mem_iff.2 among)
      exact ((first each).trans (second eachMiddle)).mono fun _ _ ⟨_, same, next⟩ =>
        same.trans next

/-- Rearranged members give rearranged results. -/
theorem mapM {results : γ → δ → Prop} {step : α → Outcome γ} {stepOther : β → Outcome δ}
    {members : List α} {others : List β} (rearranged : IsRearranged relates members others)
    (agrees : ∀ member other, relates member other →
      Agrees only results (step member) (stepOther other)) :
    Agrees only (IsRearranged results) (members.mapM step) (others.mapM stepOther) := by
  have each : ∀ member ∈ members, Agrees only Eq (step member) (step member) := by
    intro member among
    obtain ⟨other, _, alike⟩ := rearranged.exists_right among
    exact (agrees member other alike).left
  obtain ⟨middle, perm, related⟩ := rearranged
  exact (mapM_perm perm each).trans (mapM_forall₂ related agrees)

end Agrees

end Outcome

/-- Rearranged members that all give results give rearranged ones. -/
theorem IsRearranged.exists_mapM {relates : α → β → Prop} {results : γ → δ → Prop}
    {step : α → Outcome γ} {stepOther : β → Outcome δ} {members : List α} {others : List β}
    (rearranged : IsRearranged relates members others)
    (gives : ∀ member other, relates member other → ∃ result otherResult,
      step member = .ok result ∧ stepOther other = .ok otherResult ∧ results result otherResult) :
    ∃ read otherRead, members.mapM step = .ok read ∧ others.mapM stepOther = .ok otherRead ∧
      IsRearranged results read otherRead := by
  have agrees : Outcome.Agrees .wrongShape (IsRearranged results) (members.mapM step)
      (others.mapM stepOther) := by
    refine .mapM rearranged fun member other related => ?_
    obtain ⟨result, otherResult, given, givenOther, same⟩ := gives member other related
    rw [given, givenOther]
    exact .ok same
  obtain ⟨read, returns, _⟩ : ∃ read, members.mapM step = .ok read ∧ ∀ result ∈ read, True := by
    refine Outcome.exists_mapM fun member among => ?_
    obtain ⟨other, _, related⟩ := rearranged.exists_right among
    obtain ⟨result, _, given, _⟩ := gives member other related
    exact ⟨result, given, trivial⟩
  rw [returns] at agrees
  generalize others.mapM stepOther = outcome at agrees
  cases agrees with
  | ok related => exact ⟨read, _, returns, rfl, related⟩

/-- Members that are sorted by a text ascend by it. -/
theorem pairwise_mergeSort_text (text : α → String) (members : List α) :
    (members.mergeSort fun left right => decide (text left ≤ text right)).Pairwise
      fun left right => text left ≤ text right := by
  refine (List.pairwise_mergeSort (fun _ _ _ first second => ?_) (fun _ _ => ?_) members).imp
    (by simp)
  · simp only [decide_eq_true_eq] at first second ⊢
    exact String.le_trans first second
  · simpa using String.le_total ..

end ApiStubs
