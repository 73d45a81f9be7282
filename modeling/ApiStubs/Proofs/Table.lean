import ApiStubs.Proofs.Rearrangement
import ApiStubs.Table
import Mathlib.Data.List.Nodup

/-!
# The order of a table

A table remembers in which order its keys were first written. Sorting forgets it: tables in which
the same values are found under the same keys are sorted in the same way, as long as no key is used
twice.

Once a key is present, its place is settled. Writing it again changes nothing but its value, and can
be exchanged with the writing of any other key.
-/

namespace ApiStubs.Table

variable {α : Type}

/-- The keys of a sorted table ascend. -/
theorem pairwise_sorted (table : Table α) :
    table.sorted.Pairwise fun first second => first.1 ≤ second.1 :=
  pairwise_mergeSort_text Prod.fst table

/-- Changing values with a view to their keys leaves the keys as they are. -/
theorem keys_mapEntries {β : Type} (change : String → α → β) (table : Table α) :
    (table.mapEntries change).keys = table.keys := by
  simp [keys, mapEntries, Function.comp_def]

/-- Something is found under every key. -/
theorem exists_get?_of_mem_keys {table : Table α} {key : String} (isKey : key ∈ table.keys) :
    ∃ value, table.get? key = some value := by
  cases found : table.get? key with
  | some value => exact ⟨value, rfl⟩
  | none =>
      obtain ⟨entry, member, rfl⟩ := List.mem_map.1 isKey
      have differs := List.lookup_eq_none_iff.1 found entry member
      simp at differs

/-- Nothing is found under what is no key. -/
theorem get?_eq_none_iff {table : Table α} {key : String} :
    table.get? key = none ↔ key ∉ table.keys := by
  constructor
  · intro absent isKey
    obtain ⟨_, found⟩ := exists_get?_of_mem_keys isKey
    rw [absent] at found
    cases found
  · intro noKey
    refine Option.eq_none_iff_forall_ne_some.2 fun value found => noKey ?_
    exact List.mem_map_of_mem (mem_of_get? found)

/-- Entries with distinct keys are distinct. -/
theorem nodup_of_keys {table : Table α} (distinct : table.keys.Nodup) : table.Nodup :=
  List.Nodup.of_map Prod.fst distinct

/-- Tables in which the same values are found under the same keys have the same entries. -/
theorem perm_of_get?_eq {first second : Table α} (distinct : first.keys.Nodup)
    (distinctSecond : second.keys.Nodup) (same : ∀ key, first.get? key = second.get? key) :
    first.Perm second := by
  refine (List.perm_ext_iff_of_nodup (nodup_of_keys distinct)
    (nodup_of_keys distinctSecond)).2 fun entry => ?_
  constructor
  · intro member
    exact mem_of_get? ((same entry.1).symm.trans (get?_of_mem distinct member))
  · intro member
    exact mem_of_get? ((same entry.1).trans (get?_of_mem distinctSecond member))

/-- Tables with the same entries find the same values under their keys. -/
theorem get?_eq_of_perm {first second : Table α} (distinct : first.keys.Nodup)
    (same : first.Perm second) (key : String) : first.get? key = second.get? key := by
  have distinctSecond : second.keys.Nodup := (same.map Prod.fst).nodup_iff.1 distinct
  refine Option.ext fun value => ⟨fun found => ?_, fun found => ?_⟩
  · exact get?_of_mem distinctSecond (same.mem_iff.1 (mem_of_get? found))
  · exact get?_of_mem distinct (same.mem_iff.2 (mem_of_get? found))

/-- Tables with the same entries are sorted in the same way. -/
theorem sorted_eq_of_perm {first second : Table α} (distinct : first.keys.Nodup)
    (same : first.Perm second) : first.sorted = second.sorted := by
  refine List.Perm.eq_of_pairwise (fun left right member memberSecond le ge => ?_)
    (pairwise_sorted first) (pairwise_sorted second) ?_
  · have key : left.1 = right.1 := String.le_antisymm le ge
    have inFirst : left ∈ first := List.mem_mergeSort.1 member
    have alsoInFirst : right ∈ first := same.mem_iff.2 (List.mem_mergeSort.1 memberSecond)
    have value : some left.2 = some right.2 := by
      rw [← get?_of_mem distinct inFirst, ← get?_of_mem distinct alsoInFirst, key]
    exact Prod.ext key (Option.some.inj value)
  · exact (List.mergeSort_perm ..).trans (same.trans (List.mergeSort_perm ..).symm)

/-! ## Writing what is present -/

/-- A key is present when something is found under it. -/
theorem has_iff {table : Table α} {key : String} :
    table.has key = true ↔ ∃ value, table.get? key = some value :=
  Option.isSome_iff_exists

/-- The keys that are present after a writing are those that were and the written one. -/
theorem has_set_iff {table : Table α} {key other : String} {value : α} :
    (table.set key value).has other = true ↔ other = key ∨ table.has other = true := by
  by_cases same : other = key
  · subst same
    simp [has]
  · rw [has, get?_set_of_ne same]
    simp [same, has]

/-- Writing the value that is found changes nothing. -/
theorem set_of_get? {table : Table α} {key : String} {value : α}
    (found : table.get? key = some value) : table.set key value = table := by
  induction table with
  | nil => simp at found
  | cons entry rest inductionHypothesis =>
      rw [get?_cons] at found
      rw [set]
      split at found
      · next isKey =>
          rw [if_pos isKey, isKey, ← Option.some.inj found]
      · next other => rw [if_neg other, inductionHypothesis found]

/-- A later writing of the same key is the one that counts. -/
theorem set_set (table : Table α) (key : String) (first second : α) :
    (table.set key first).set key second = table.set key second := by
  induction table with
  | nil => simp [set]
  | cons entry rest inductionHypothesis =>
      by_cases isKey : key = entry.1
      · simp [set, isKey]
      · simp [set, isKey, inductionHypothesis]

/-- Writing a key that is present can be exchanged with writing another one. -/
theorem set_comm {table : Table α} {key other : String} (differs : key ≠ other)
    (present : table.has key = true) (first second : α) :
    (table.set key first).set other second = (table.set other second).set key first := by
  induction table with
  | nil => simp [has] at present
  | cons entry rest inductionHypothesis =>
      by_cases isKey : key = entry.1
      · have isOther : other ≠ entry.1 := isKey ▸ differs.symm
        simp [set, isKey, isOther]
      · have presentRest : Table.has rest key = true := by
          rw [has, get?_cons, if_neg isKey] at present
          exact present
        by_cases isOther : other = entry.1
        · simp [set, isOther, isOther ▸ differs]
        · simp [set, isKey, isOther, inductionHypothesis presentRest]

/-- Of two writings, the second replaces the first, or they can be exchanged where the key of the
first is present. -/
theorem set_exchange (key other : String) (first second : α) :
    (∀ table, (set table key first).set other second = table.set other second) ∨
      ∀ table, has table key = true →
        (set table key first).set other second = (table.set other second).set key first := by
  by_cases same : key = other
  · subst same
    exact .inl fun table => set_set table key first second
  · exact .inr fun table present => set_comm same present first second

/-- Writing one key does not matter to whether another is present. -/
theorem has_set_of_ne {table : Table α} {key other : String} {value : α} (differs : other ≠ key) :
    (table.set key value).has other = table.has other :=
  congrArg Option.isSome (get?_set_of_ne differs)

/-- A key that is present keeps its value when a default is written. -/
theorem setDefault_of_has {table : Table α} {key : String} (present : table.has key = true)
    (default : α) : table.setDefault key default = table :=
  if_pos present

/-- A key that is present reads back the same value when a default is written under any key. -/
theorem get?_setDefault_of_has {table : Table α} {key other : String}
    (present : table.has key = true) (default : α) :
    (table.setDefault other default).get? key = table.get? key := by
  rw [setDefault]
  split
  · rfl
  · next absent =>
      refine get?_set_of_ne ?_
      rintro rfl
      exact absent present

/-- A key that is present stays present when a default is written under any key. -/
theorem has_setDefault_of_has {table : Table α} {key : String} (present : table.has key = true)
    (other : String) (default : α) : (table.setDefault other default).has key = true := by
  rw [has, get?_setDefault_of_has present]
  exact present

/-- A key is present once a default has been written under it. -/
theorem has_setDefault_self (table : Table α) (key : String) (default : α) :
    (table.setDefault key default).has key = true := by
  rw [setDefault]
  split
  · next present => exact present
  · exact has_set_iff.2 (.inl rfl)

/-- Writing a key that is present can be exchanged with writing a default under any key. -/
theorem set_setDefault {table : Table α} {key other : String} (present : table.has key = true)
    (value default : α) :
    (table.set key value).setDefault other default =
      (table.setDefault other default).set key value := by
  by_cases same : key = other
  · subst same
    rw [setDefault_of_has present, setDefault_of_has (has_set_iff.2 (.inl rfl))]
  · rw [setDefault, setDefault, has_set_of_ne (Ne.symm same)]
    split
    · rfl
    · exact set_comm same present ..

/-! ## Tables of tables -/

/-- Write a value into one of the tables of a table. -/
def setIn (tables : Table (Table α)) (owner key : String) (value : α) : Table (Table α) :=
  tables.modify owner [] fun table => table.set key value

/-- A key is present in one of the tables of a table. -/
def HasIn (tables : Table (Table α)) (owner key : String) : Prop :=
  ∃ table, tables.get? owner = some table ∧ table.has key = true

section Tables

variable {tables : Table (Table α)} {owner key : String}

/-- A table in which a key is present is present itself. -/
theorem HasIn.has (present : tables.HasIn owner key) : tables.has owner = true :=
  has_iff.2 (present.imp fun _ found => found.1)

/-- A key is present once it has been written. -/
theorem hasIn_setIn_self (tables : Table (Table α)) (owner key : String) (value : α) :
    (tables.setIn owner key value).HasIn owner key :=
  ⟨_, get?_modify_self .., has_set_iff.2 (.inl rfl)⟩

/-- A key that is present stays present when another is written. -/
theorem HasIn.setIn (present : tables.HasIn owner key) (other otherKey : String) (value : α) :
    (tables.setIn other otherKey value).HasIn owner key := by
  obtain ⟨table, found, isKey⟩ := present
  by_cases same : owner = other
  · subst same
    refine ⟨_, get?_modify_self .., has_set_iff.2 (.inr ?_)⟩
    rw [found]
    exact isKey
  · exact ⟨table, (get?_modify_of_ne same).trans found, isKey⟩

/-- A key that is present stays present when a table is opened. -/
theorem HasIn.setDefault (present : tables.HasIn owner key) (other : String) :
    (tables.setDefault other []).HasIn owner key := by
  obtain ⟨table, found, isKey⟩ := present
  exact ⟨table, (get?_setDefault_of_has (has_iff.2 ⟨table, found⟩) _).trans found, isKey⟩

/-- A later writing at the same place is the one that counts. -/
theorem setIn_setIn (tables : Table (Table α)) (owner key : String) (first second : α) :
    (tables.setIn owner key first).setIn owner key second = tables.setIn owner key second := by
  simp only [Table.setIn, modify, get?_set_self, Option.getD_some, set_set]

/-- Writing what is present can be exchanged with writing at another place. -/
theorem setIn_comm {other otherKey : String} (present : tables.HasIn owner key)
    (differs : owner = other → key ≠ otherKey) (first second : α) :
    (tables.setIn owner key first).setIn other otherKey second =
      (tables.setIn other otherKey second).setIn owner key first := by
  obtain ⟨table, found, isKey⟩ := id present
  by_cases same : owner = other
  · subst same
    simp only [Table.setIn, modify, get?_set_self, found, Option.getD_some, set_set,
      set_comm (differs rfl) isKey]
  · simp only [Table.setIn, modify, get?_set_of_ne same, get?_set_of_ne (Ne.symm same),
      set_comm same present.has]

/-- Of two writings into tables, the second replaces the first, or they can be exchanged where the
key of the first is present. -/
theorem setIn_exchange (owner key other otherKey : String) (first second : α) :
    (∀ tables, (setIn tables owner key first).setIn other otherKey second =
      tables.setIn other otherKey second) ∨
    ∀ tables, HasIn tables owner key →
      (setIn tables owner key first).setIn other otherKey second =
        (tables.setIn other otherKey second).setIn owner key first := by
  by_cases same : owner = other ∧ key = otherKey
  · obtain ⟨rfl, rfl⟩ := same
    exact .inl fun tables => setIn_setIn tables owner key first second
  · exact .inr fun tables present =>
      setIn_comm present (fun isOwner isKey => same ⟨isOwner, isKey⟩) first second

/-- Writing what is present can be exchanged with opening a table. -/
theorem setIn_setDefault (present : tables.HasIn owner key) (other : String) (value : α) :
    (tables.setIn owner key value).setDefault other [] =
      (tables.setDefault other []).setIn owner key value := by
  rw [Table.setIn, modify, set_setDefault present.has, Table.setIn, modify,
    get?_setDefault_of_has present.has]

end Tables

end ApiStubs.Table
