import ApiStubs.Proofs.Teal.Traversal

/-!
# What the parts of groups are made of

The way through the groups adds nothing of its own but the records of groups, and leaves out nothing
that is declared on it. So the parts of a group are, one after the other and in the order in which
the declarations are asked for, these declarations, with or without the parts of a group put into
them, and records around the parts of a group (`watches_assembly`, by induction over the groups).
-/

namespace ApiStubs.Teal

open ApiStubs.Reference

/-- A declaration that is asked for and made. -/
def Call.Makes (declare : Declare Outcome) (call : Call) (declaration : Declaration) : Prop :=
  declare call.kind call.element call.fullName call.isOutermost = .ok (some declaration)

/-- A declaration that is asked for and found not to be one. -/
def Call.IsLeftOut (declare : Declare Outcome) (call : Call) : Prop :=
  declare call.kind call.element call.fullName call.isOutermost = .ok none

/-- Parts that are assembled of the declarations asked for: one after the other, each by itself or
around the parts of a group, and of records around the parts of a group. -/
inductive Assembles (declare : Declare Outcome) : List Call → List Part → Prop
  | nil : Assembles declare [] []
  | leftOut {call : Call} {calls : List Call} {rest : List Part}
      (isLeftOut : call.IsLeftOut declare) (later : Assembles declare calls rest) :
      Assembles declare (call :: calls) rest
  | alone {call : Call} {declaration : Declaration} {calls : List Call} {rest : List Part}
      (makes : call.Makes declare declaration) (later : Assembles declare calls rest) :
      Assembles declare (call :: calls) (declaration.parts ++ rest)
  | host {call : Call} {declaration : Declaration} {calls callsInside : List Call}
      {inside rest : List Part} (makes : call.Makes declare declaration)
      (within : Assembles declare callsInside inside) (later : Assembles declare calls rest) :
      Assembles declare (call :: callsInside ++ calls)
        (declaration.around [.block inside] ++ rest)
  | group (name : String) {calls callsInside : List Call} {inside rest : List Part}
      (within : Assembles declare callsInside inside) (later : Assembles declare calls rest) :
      Assembles declare (callsInside ++ calls) (recordParts name inside ++ rest)

section Assembly

variable {declare : Declare Outcome}

/-- Assembled parts one after the other are assembled. -/
theorem Assembles.append {calls callsLater : List Call} {parts later : List Part}
    (assembles : Assembles declare calls parts)
    (assemblesLater : Assembles declare callsLater later) :
    Assembles declare (calls ++ callsLater) (parts ++ later) := by
  induction assembles with
  | nil => exact assemblesLater
  | leftOut isLeftOut _ inductionHypothesis => exact .leftOut isLeftOut inductionHypothesis
  | alone makes _ inductionHypothesis =>
      rw [List.append_assoc]
      exact .alone makes inductionHypothesis
  | host makes within _ _ inductionHypothesis =>
      rw [List.append_assoc, List.append_assoc]
      exact .host makes within inductionHypothesis
  | group name within _ _ inductionHypothesis =>
      rw [List.append_assoc, List.append_assoc]
      exact .group name within inductionHypothesis

section Level

variable {groups : Table Group} {watched : String → Group → Watched (List Part)}
  {plain : String → Group → Outcome (List Part)} (path : List String)
  (each : ∀ entry ∈ groups, Watches declare (watched entry.1 entry.2) (plain entry.1 entry.2)
    fun parts calls => Assembles declare calls parts)

include each

/-- The parts of an entry are assembled of its declaration and of the group that it hosts. -/
theorem watches_assembly_entry (entry : Entry) :
    Watches declare (entryParts (watch declare) path (groups.mapEntries watched) entry)
      (entryParts declare path (groups.mapEntries plain) entry)
      fun result calls => Assembles declare calls result.1 := by
  obtain ⟨kind?, name, element⟩ := entry
  cases kind? with
  | none => exact .pure .nil
  | some kind =>
      refine (Watches.watch declare kind element _ path.isEmpty).bind
        fun declared? calls declared own => ?_
      subst own
      let call : Call := ⟨kind, element, Group.dottedName path name, path.isEmpty⟩
      cases declared? with
      | none => exact .pure (.leftOut declared .nil)
      | some declaration =>
          have makes : call.Makes declare declaration := declared
          have alone : Assembles declare [call] declaration.parts := by
            simpa using Assembles.alone makes .nil
          simp only [Table.get?_mapEntries]
          cases found : groups.get? name with
          | none => cases kind <;> exact .pure alone
          | some group =>
              cases kind with
              | classType =>
                  refine (each _ (Table.mem_of_get? found)).bind
                    fun inside later _ within => .pure ?_
                  simpa using Assembles.host makes within .nil
              | _ => exact .pure alone

/-- The parts of entries are assembled of their declarations and of the groups that they host. -/
theorem watches_assembly_entries (entries : List Entry) :
    Watches declare (entriesParts (watch declare) path (groups.mapEntries watched) entries)
      (entriesParts declare path (groups.mapEntries plain) entries)
      fun result calls => Assembles declare calls result.1 := by
  induction entries with
  | nil => exact .pure .nil
  | cons entry rest inductionHypothesis =>
      refine (watches_assembly_entry path each entry).bind fun first calls _ own =>
        inductionHypothesis.bind fun others later _ theirs => .pure ?_
      simpa using own.append theirs

/-- Records around groups are assembled of these groups. -/
theorem watches_assembly_records {remaining : Table Group} (among : remaining ⊆ groups) :
    Watches declare
      (remaining.mapM fun group => return recordParts group.1 (← watched group.1 group.2))
      (remaining.mapM fun group => return recordParts group.1 (← plain group.1 group.2))
      fun records calls => Assembles declare calls records.flatten := by
  induction remaining with
  | nil => exact .pure .nil
  | cons group rest inductionHypothesis =>
      obtain ⟨member, others⟩ := List.cons_subset.1 among
      rw [List.mapM_cons, List.mapM_cons]
      have record : Watches declare
          (do return recordParts group.1 (← watched group.1 group.2))
          (do return recordParts group.1 (← plain group.1 group.2))
          fun record calls => Assembles declare calls record :=
        (each group member).bind fun inside calls _ within => .pure <| by
          simpa using Assembles.group group.1 within .nil
      refine record.bind fun first calls _ own =>
        (inductionHypothesis others).bind fun rest later _ theirs => .pure ?_
      simpa using own.append theirs

/-- The parts of a group are assembled of the declarations of its elements and of the groups inside
it. -/
theorem watches_assembly_level (elements : List Value) :
    Watches declare (levelParts (watch declare) path elements (groups.mapEntries watched))
      (levelParts declare path elements (groups.mapEntries plain))
      fun parts calls => Assembles declare calls parts := by
  refine (Watches.lift (orderedEntries elements)).bind fun entries calls _ lifted => ?_
  obtain ⟨_, rfl⟩ := lifted
  refine (watches_assembly_entries path each entries).bind fun result calls _ own => ?_
  obtain ⟨parts, hosted⟩ := result
  simp only [Table.sorted_mapEntries]
  simp only [Table.mapEntries, List.filter_map, List.mapM_map]
  refine (watches_assembly_records each fun group member => ?_).bind
    fun records later _ theirs => .pure ?_
  · exact List.mem_mergeSort.1 (List.mem_of_mem_filter member)
  · simpa using own.append theirs

end Level

/-- The parts of groups are assembled of the declarations that are asked for on the way through
them. -/
theorem watches_assembly (group : Group) (path : List String) :
    Watches declare (groupParts (watch declare) path group) (groupParts declare path group)
      fun parts calls => Assembles declare calls parts := by
  induction group using Group.induction generalizing path with
  | level name elements groups inductionHypothesis =>
      rw [groupParts, groupParts, groupsParts_eq_mapEntries, groupsParts_eq_mapEntries]
      exact watches_assembly_level path
        (fun entry member => inductionHypothesis entry member (path ++ [entry.1])) elements

end Assembly

end ApiStubs.Teal
