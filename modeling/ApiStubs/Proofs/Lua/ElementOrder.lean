import ApiStubs.Proofs.Reference.Placement

/-!
# The order of elements in a Lua file

Elements stand in descending order of their types, and inside a type in ascending order of their
names. Elements of one type and name keep the order that they have, so there is one order only, and
it does not matter whether they are sorted by both at once or by name first and then by type.

- `IsFileOrder` is the order, and `IsFileOrder.eq` says that there is one only.
- `mergeSort_name_type` says that it is found by sorting by name and then by type.
-/

namespace ApiStubs

/-- Sorting leaves members that may stand before each other in the order that they have. -/
theorem filter_mergeSort {α : Type} {le : α → α → Bool}
    (trans : ∀ first second third, le first second = true → le second third = true →
      le first third = true)
    (total : ∀ first second, (le first second || le second first) = true) {isKept : α → Bool}
    (alike : ∀ first second, isKept first = true → isKept second = true → le first second = true)
    (members : List α) : (members.mergeSort le).filter isKept = members.filter isKept := by
  have ordered : (members.filter isKept).Pairwise fun first second => le first second = true :=
    List.pairwise_of_forall_mem_list fun first isFirst second isSecond =>
      alike first second (List.mem_filter.1 isFirst).2 (List.mem_filter.1 isSecond).2
  have inside := (List.sublist_mergeSort trans total ordered List.filter_sublist).filter isKept
  rw [List.filter_filter] at inside
  simp only [Bool.and_self] at inside
  exact (inside.eq_of_length ((List.mergeSort_perm members le).filter isKept).length_eq.symm).symm

namespace Lua

open ApiStubs.Reference ApiStubs.Reference.Group

/-! ## The order of elements -/

/-- The type of an element, empty when it has no text for a type. -/
def typeOf (element : Value) : String :=
  ((element.field? "type").bind Value.text?).getD ""

/-- An element may stand before another in a file: types do not ascend, and inside a type names do
not descend. -/
def Precedes (first second : Value) : Prop :=
  typeOf second ≤ typeOf first ∧ (typeOf first = typeOf second → nameOf first ≤ nameOf second)

instance (first second : Value) : Decidable (Precedes first second) :=
  inferInstanceAs (Decidable (_ ∧ _))

/-- Whether an element may stand before another. -/
def mayPrecede (first second : Value) : Bool :=
  decide (Precedes first second)

/-- An element precedes itself. -/
theorem Precedes.refl (element : Value) : Precedes element element :=
  ⟨String.le_refl _, fun _ => String.le_refl _⟩

/-- What precedes an element precedes whatever that element precedes. -/
theorem Precedes.trans {first second third : Value} (precedes : Precedes first second)
    (precedesNext : Precedes second third) : Precedes first third := by
  refine ⟨String.le_trans precedesNext.1 precedes.1, fun same => ?_⟩
  have middle : typeOf first = typeOf second :=
    String.le_antisymm (same ▸ precedesNext.1) precedes.1
  exact String.le_trans (precedes.2 middle) (precedesNext.2 (middle.symm.trans same))

/-- Of two elements one precedes the other. -/
theorem precedes_total (first second : Value) : Precedes first second ∨ Precedes second first := by
  by_cases same : typeOf first = typeOf second
  · exact (String.le_total (nameOf first) (nameOf second)).imp
      (fun le => ⟨same ▸ String.le_refl _, fun _ => le⟩)
      fun le => ⟨same ▸ String.le_refl _, fun _ => le⟩
  · exact (String.le_total (typeOf second) (typeOf first)).imp
      (fun le => ⟨le, fun equal => absurd equal same⟩)
      fun le => ⟨le, fun equal => absurd equal.symm same⟩

/-- Elements that precede each other have one type and one name. -/
theorem Precedes.antisymm {first second : Value} (precedes : Precedes first second)
    (follows : Precedes second first) :
    typeOf first = typeOf second ∧ nameOf first = nameOf second := by
  have same := String.le_antisymm follows.1 precedes.1
  exact ⟨same, String.le_antisymm (precedes.2 same) (follows.2 same.symm)⟩

/-- Whether an element has a type and a name. -/
def isCalled (type name : String) (element : Value) : Bool :=
  typeOf element == type && nameOf element == name

/-- The elements of a list in the order of a file: each precedes those after it, and those of one
type and name stand as they do in the list. -/
structure IsFileOrder (elements ordered : List Value) : Prop where
  perm : ordered.Perm elements
  sorted : ordered.Pairwise Precedes
  stable : ∀ type name,
    ordered.filter (isCalled type name) = elements.filter (isCalled type name)

namespace IsFileOrder

variable {elements ordered other : List Value}

/-- What is kept of elements in order is in order. -/
theorem filter (inOrder : IsFileOrder elements ordered) (isKept : Value → Bool) :
    IsFileOrder (elements.filter isKept) (ordered.filter isKept) := by
  refine ⟨inOrder.perm.filter isKept, inOrder.sorted.filter isKept, fun type name => ?_⟩
  rw [List.filter_comm, inOrder.stable, List.filter_comm]

/-- Sorting puts elements in order. -/
theorem mergeSort (elements : List Value) :
    IsFileOrder elements (elements.mergeSort mayPrecede) := by
  have trans (first second third : Value) (le : mayPrecede first second = true)
      (leNext : mayPrecede second third = true) : mayPrecede first third = true := by
    rw [mayPrecede, decide_eq_true_iff] at le leNext ⊢
    exact le.trans leNext
  have total (first second : Value) :
      (mayPrecede first second || mayPrecede second first) = true := by
    rw [Bool.or_eq_true, mayPrecede, mayPrecede, decide_eq_true_iff, decide_eq_true_iff]
    exact precedes_total first second
  refine ⟨List.mergeSort_perm .., ?_, fun type name => filter_mergeSort trans total ?_ elements⟩
  · exact (List.pairwise_mergeSort trans total elements).imp of_decide_eq_true
  · intro first second isFirst isSecond
    simp only [isCalled, Bool.and_eq_true, beq_iff_eq] at isFirst isSecond
    rw [mayPrecede, decide_eq_true_iff, Precedes, isFirst.1, isFirst.2, isSecond.1, isSecond.2]
    exact ⟨String.le_refl _, fun _ => String.le_refl _⟩

/-- There is one order of a file only. -/
theorem eq (inOrder : IsFileOrder elements ordered) (otherInOrder : IsFileOrder elements other) :
    ordered = other := by
  obtain ⟨perm, sorted, stable⟩ := inOrder
  obtain ⟨otherPerm, otherSorted, otherStable⟩ := otherInOrder
  replace perm := perm.trans otherPerm.symm
  replace stable type name := (stable type name).trans (otherStable type name).symm
  clear otherPerm otherStable
  induction ordered generalizing other with
  | nil => exact perm.nil_eq
  | cons first rest inductionHypothesis =>
      cases other with
      | nil => exact perm.eq_nil
      | cons otherFirst otherRest =>
          obtain ⟨above, sortedRest⟩ := List.pairwise_cons.1 sorted
          obtain ⟨otherAbove, otherSortedRest⟩ := List.pairwise_cons.1 otherSorted
          -- Each of the two heads stands somewhere in the other list, so they precede each other.
          have precedes : Precedes first otherFirst := by
            rcases List.mem_cons.1 (perm.mem_iff.2 (List.mem_cons_self ..)) with rfl | later
            · exact Precedes.refl otherFirst
            · exact above otherFirst later
          have follows : Precedes otherFirst first := by
            rcases List.mem_cons.1 (perm.mem_iff.1 (List.mem_cons_self ..)) with rfl | later
            · exact Precedes.refl first
            · exact otherAbove first later
          obtain ⟨sameType, sameName⟩ := precedes.antisymm follows
          have heads := stable (typeOf first) (nameOf first)
          rw [List.filter_cons_of_pos (by simp [isCalled]),
            List.filter_cons_of_pos (by simp [isCalled, sameType, sameName])] at heads
          obtain ⟨rfl, _⟩ := List.cons.inj heads
          refine congrArg (first :: ·)
            (inductionHypothesis sortedRest otherSortedRest perm.cons_inv fun type name => ?_)
          have kept := stable type name
          rw [List.filter_cons, List.filter_cons] at kept
          split at kept
          · exact (List.cons.inj kept).2
          · exact kept

end IsFileOrder

/-- Sorting by name, and then by type in descending order, puts elements in the order of a file. -/
theorem mergeSort_name_type (elements : List Value) :
    ((elements.mergeSort fun first second => decide (nameOf first ≤ nameOf second)).mergeSort
        fun first second => decide (typeOf second ≤ typeOf first)) =
      elements.mergeSort mayPrecede := by
  let byName (first second : Value) : Bool := decide (nameOf first ≤ nameOf second)
  let byType (first second : Value) : Bool := decide (typeOf second ≤ typeOf first)
  have transName : ∀ first second third, byName first second = true → byName second third = true →
      byName first third = true := by
    simpa only [byName, decide_eq_true_iff] using fun _ _ _ => String.le_trans
  have totalName : ∀ first second, (byName first second || byName second first) = true := by
    simpa only [byName, Bool.or_eq_true, decide_eq_true_iff] using
      fun _ _ => String.le_total _ _
  have transType : ∀ first second third, byType first second = true → byType second third = true →
      byType first third = true := by
    simpa only [byType, decide_eq_true_iff] using fun _ _ _ le leNext => String.le_trans leNext le
  have totalType : ∀ first second, (byType first second || byType second first) = true := by
    simpa only [byType, Bool.or_eq_true, decide_eq_true_iff] using
      fun _ _ => String.le_total _ _
  have named := List.pairwise_mergeSort transName totalName elements
  have typed := List.pairwise_mergeSort transType totalType (elements.mergeSort byName)
  -- Sorting by type keeps elements of one type in the order of their names.
  have inside (type : String) : ((elements.mergeSort byName).mergeSort byType).Pairwise
      fun first second => typeOf first = type → typeOf second = type →
        nameOf first ≤ nameOf second := by
    have kept : ((elements.mergeSort byName).mergeSort byType).filter (typeOf · == type) =
        (elements.mergeSort byName).filter (typeOf · == type) := by
      refine filter_mergeSort transType totalType (fun first second isFirst isSecond => ?_) _
      simp_all [byType]
    have ofType := named.filter fun element => typeOf element == type
    rw [← kept, List.pairwise_filter] at ofType
    exact ofType.imp fun le isFirst isSecond =>
      of_decide_eq_true (le (beq_iff_eq.2 isFirst) (beq_iff_eq.2 isSecond))
  refine IsFileOrder.eq ⟨(List.mergeSort_perm ..).trans (List.mergeSort_perm ..), ?_,
    fun type name => ?_⟩ (.mergeSort elements)
  · refine List.pairwise_iff_forall_sublist.2 fun {first second} pair => ?_
    exact ⟨of_decide_eq_true (List.pairwise_iff_forall_sublist.1 typed pair), fun same =>
      List.pairwise_iff_forall_sublist.1 (inside (typeOf first)) pair rfl same.symm⟩
  · rw [filter_mergeSort transType totalType, filter_mergeSort transName totalName]
    all_goals
      intro first second isFirst isSecond
      simp_all [isCalled, byName, byType]

end Lua

end ApiStubs
