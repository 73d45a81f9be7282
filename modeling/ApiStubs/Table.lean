/-!
# Ordered tables

A table is a list of entries in the order in which their keys were first written. Writing a key
that is present replaces its value in place. The lemmas say what `set` does to a later look-up and
to the keys; nothing here knows what the values are.
-/

namespace ApiStubs

/-- Entries in the order in which their keys were first written. -/
abbrev Table (α : Type) := List (String × α)

namespace Table

variable {α β : Type}

/-- The value written under a key. -/
def get? (table : Table α) (key : String) : Option α :=
  table.lookup key

/-- Whether a key has been written. -/
def has (table : Table α) (key : String) : Bool :=
  (table.get? key).isSome

/-- The keys in the order of their first writing. -/
def keys (table : Table α) : List String :=
  table.map Prod.fst

/-- Write a value: in place when the key is present, at the end otherwise. -/
def set : Table α → String → α → Table α
  | [], key, value => [(key, value)]
  | (other, old) :: rest, key, value =>
      if key = other then (key, value) :: rest else (other, old) :: set rest key value

/-- Write all entries of the second table over the first, in order. -/
def update (table entries : Table α) : Table α :=
  entries.foldl (fun current entry => current.set entry.1 entry.2) table

/-- Write a value unless the key is present. -/
def setDefault (table : Table α) (key : String) (value : α) : Table α :=
  if table.has key then table else table.set key value

/-- Change the value under a key, starting from a default when the key is absent. -/
def modify (table : Table α) (key : String) (default : α) (change : α → α) : Table α :=
  table.set key (change ((table.get? key).getD default))

/-- The same keys over changed values. -/
def mapValues (change : α → β) (table : Table α) : Table β :=
  table.map fun entry => (entry.1, change entry.2)

/-- The same keys over values that are changed with a view to their keys. -/
def mapEntries (change : String → α → β) (table : Table α) : Table β :=
  table.map fun entry => (entry.1, change entry.1 entry.2)

/-- The entries in ascending order of their keys. -/
def sorted (table : Table α) : Table α :=
  table.mergeSort fun left right => decide (left.1 ≤ right.1)

@[simp] theorem get?_nil (key : String) : get? ([] : Table α) key = none := rfl

theorem get?_cons (entry : String × α) (rest : Table α) (key : String) :
    get? (entry :: rest) key = if key = entry.1 then some entry.2 else get? rest key := by
  obtain ⟨other, value⟩ := entry
  by_cases same : key = other
  · simp [get?, same]
  · have differs : (key == other) = false := by simpa using same
    simp [get?, List.lookup_cons, differs, same]

/-- A key reads back the value written last. -/
@[simp] theorem get?_set_self (table : Table α) (key : String) (value : α) :
    (table.set key value).get? key = some value := by
  induction table with
  | nil => simp [set, get?_cons]
  | cons entry rest inductionHypothesis =>
      by_cases same : key = entry.1
      · simp [set, same, get?_cons]
      · simp [set, same, get?_cons, inductionHypothesis]

/-- Writing one key leaves every other key as it was. -/
theorem get?_set_of_ne {table : Table α} {key other : String} {value : α}
    (differs : other ≠ key) : (table.set key value).get? other = table.get? other := by
  induction table with
  | nil => simp [set, get?_cons, differs]
  | cons entry rest inductionHypothesis =>
      by_cases same : key = entry.1
      · simp [set, same, get?_cons, same ▸ differs]
      · simp [set, same, get?_cons, inductionHypothesis]

/-- The keys after a writing are the keys before it and the written one. -/
theorem mem_keys_set {table : Table α} {key other : String} {value : α} :
    other ∈ (table.set key value).keys ↔ other = key ∨ other ∈ table.keys := by
  induction table with
  | nil => simp [set, keys]
  | cons entry rest inductionHypothesis =>
      by_cases same : key = entry.1
      · simp [set, same, keys]
      · simp only [keys] at inductionHypothesis
        simp [set, same, keys, inductionHypothesis, or_left_comm]

/-- A value that is found stands in the table under its key. -/
theorem mem_of_get? {table : Table α} {key : String} {value : α}
    (found : table.get? key = some value) : (key, value) ∈ table := by
  induction table with
  | nil => simp at found
  | cons entry rest inductionHypothesis =>
      rw [get?_cons] at found
      split at found
      · next same =>
          have written : (key, value) = entry := by
            rw [same, ← Option.some.inj found]
          exact written ▸ List.mem_cons_self ..
      · exact List.mem_cons_of_mem _ (inductionHypothesis found)

/-- Where the keys are distinct, every entry is found under its key. -/
theorem get?_of_mem {table : Table α} {key : String} {value : α}
    (distinct : table.keys.Nodup) (member : (key, value) ∈ table) :
    table.get? key = some value := by
  induction table with
  | nil => simp at member
  | cons entry rest inductionHypothesis =>
      rw [get?_cons]
      obtain ⟨absent, distinctRest⟩ := List.nodup_cons.1 distinct
      rcases List.mem_cons.1 member with rfl | later
      · simp
      · have differs : key ≠ entry.1 := by
          rintro rfl
          exact absent (List.mem_map.2 ⟨_, later, rfl⟩)
        simp [differs, inductionHypothesis distinctRest later]

/-- What stands in a table after a writing is the written entry or stood there before. -/
theorem mem_of_mem_set {table : Table α} {key : String} {value : α} {entry : String × α}
    (member : entry ∈ table.set key value) : entry = (key, value) ∨ entry ∈ table := by
  induction table with
  | nil => simpa [set] using member
  | cons first rest inductionHypothesis =>
      simp only [set] at member
      split at member
      · rcases List.mem_cons.1 member with written | later
        · exact .inl written
        · exact .inr (List.mem_cons_of_mem _ later)
      · rcases List.mem_cons.1 member with rfl | later
        · exact .inr (List.mem_cons_self ..)
        · exact (inductionHypothesis later).imp id (List.mem_cons_of_mem _)

/-- Writing keeps the keys distinct. -/
theorem nodup_keys_set {table : Table α} {key : String} {value : α}
    (distinct : table.keys.Nodup) : (table.set key value).keys.Nodup := by
  induction table with
  | nil => simp [set, keys]
  | cons entry rest inductionHypothesis =>
      obtain ⟨absent, distinctRest⟩ := List.nodup_cons.1 distinct
      simp only [set]
      split
      · next same =>
          subst same
          exact List.nodup_cons.2 ⟨absent, distinctRest⟩
      · next differs =>
          refine List.nodup_cons.2 ⟨fun later => ?_, inductionHypothesis distinctRest⟩
          rcases mem_keys_set.1 later with same | present
          · exact differs same.symm
          · exact absent present

/-- A changed key reads back the changed value. -/
@[simp] theorem get?_modify_self (table : Table α) (key : String) (default : α)
    (change : α → α) :
    (table.modify key default change).get? key =
      some (change ((table.get? key).getD default)) :=
  get?_set_self ..

/-- Changing one key leaves every other key as it was. -/
theorem get?_modify_of_ne {table : Table α} {key other : String} {default : α}
    {change : α → α} (differs : other ≠ key) :
    (table.modify key default change).get? other = table.get? other :=
  get?_set_of_ne differs

/-- Changing values with a view to their keys changes what is found under each key. -/
theorem get?_mapEntries (change : String → α → β) (table : Table α) (key : String) :
    (table.mapEntries change).get? key = (table.get? key).map (change key) := by
  induction table with
  | nil => rfl
  | cons entry rest inductionHypothesis =>
      have step : get? (mapEntries change (entry :: rest)) key =
          if key = entry.1 then some (change entry.1 entry.2)
          else get? (mapEntries change rest) key := get?_cons ..
      rw [step, get?_cons, inductionHypothesis]
      split
      · next same => rw [same]; rfl
      · rfl

/-- Changing values leaves the order of the keys as it is. -/
theorem sorted_mapEntries (change : String → α → β) (table : Table α) :
    (table.mapEntries change).sorted = mapEntries change table.sorted := by
  rw [sorted, mapEntries, mapEntries, sorted, List.map_mergeSort]
  exact fun _ _ _ _ => rfl

/-- A table all of whose values have a property. -/
def All (holds : α → Prop) (table : Table α) : Prop :=
  ∀ entry ∈ table, holds entry.2

namespace All

variable {holds : α → Prop} {table : Table α}

/-- A value that is found has the property of all. -/
theorem of_get? (all : table.All holds) {key : String} {value : α}
    (found : table.get? key = some value) : holds value :=
  all _ (mem_of_get? found)

/-- A property that follows from that of all is one of all. -/
theorem mono (all : table.All holds) {weaker : α → Prop}
    (implies : ∀ value, holds value → weaker value) : table.All weaker :=
  fun entry member => implies entry.2 (all entry member)

/-- What stands for an absent value keeps the property of what is found. -/
theorem getD (all : table.All holds) {default : α} (stands : holds default) (key : String) :
    holds ((table.get? key).getD default) := by
  cases found : table.get? key with
  | none => exact stands
  | some value => exact all.of_get? found

/-- Writing a value with the property keeps the property of all. -/
theorem set (all : table.All holds) {value : α} (new : holds value) (key : String) :
    (table.set key value).All holds := by
  intro entry member
  rcases mem_of_mem_set member with rfl | before
  · exact new
  · exact all entry before

/-- Writing a value unless the key is present keeps the property of all. -/
theorem setDefault (all : table.All holds) {value : α} (new : holds value) (key : String) :
    (table.setDefault key value).All holds := by
  rw [Table.setDefault]
  split
  · exact all
  · exact all.set new key

/-- A change that keeps the property of a value keeps the property of all. -/
theorem modify (all : table.All holds) {default : α} (stands : holds default) {change : α → α}
    (keeps : ∀ value, holds value → holds (change value)) (key : String) :
    (table.modify key default change).All holds :=
  all.set (keeps _ (all.getD stands key)) key

/-- Writing entries with the property over others keeps the property of all. -/
theorem update (all : table.All holds) {entries : Table α} (new : entries.All holds) :
    (table.update entries).All holds := by
  induction entries generalizing table with
  | nil => exact all
  | cons entry rest inductionHypothesis =>
      obtain ⟨first, others⟩ := List.forall_mem_cons.1 new
      exact inductionHypothesis (all.set first entry.1) others

/-- The entries in ascending order have the property of all. -/
theorem sorted (all : table.All holds) : table.sorted.All holds :=
  fun entry member => all entry (List.mem_mergeSort.1 member)

end All

end Table

end ApiStubs
