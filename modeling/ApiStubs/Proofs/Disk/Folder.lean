import ApiStubs.Proofs.Disk

/-!
# One folder of the work folder

A plain name leads to one place: the folder or file of that name in the folder where the path
starts. This module says what becomes of the folder of a plain name when it is removed and made
again, and where a path can lead at all.

- `Location.ofPath` is the one location that a path can lead to; a disk only decides whether it is
  reached.
- `removeFolder_plain` and `makeFolders_plain` say what removing and making the folder of a plain
  name does to a disk, also when there is a fault.
- `Disk.renew` is what both together leave: nothing within the folder but the folder itself.
- `Disk.AgreeAt` says of two disks that they have the same at a location; changes within a folder do
  not show outside it.
-/

namespace ApiStubs

namespace Path

/-- A name that leads one step down: not empty, without a stroke, and neither here nor above. -/
structure IsPlainName (name : String) : Prop where
  unstroked : '/' ∉ name.toList
  nonempty : name ≠ ""
  notHere : name ≠ "."
  notAbove : name ≠ ".."

namespace IsPlainName

variable {name folder file : String}

/-- A plain name does not begin with a stroke. -/
theorem not_beginsWith (plain : IsPlainName name) : Text.beginsWith name "/" = false := by
  rw [Text.beginsWith, Bool.eq_false_iff]
  intro isPrefix
  obtain ⟨rest, begins⟩ := List.isPrefixOf_iff_prefix.1 isPrefix
  exact plain.unstroked (begins ▸ List.mem_append_left _ (by simp))

/-- A plain name does not end with a stroke. -/
theorem not_endsWith (plain : IsPlainName name) : Text.endsWith name "/" = false := by
  rw [Text.endsWith, Bool.eq_false_iff]
  intro isSuffix
  obtain ⟨rest, ends⟩ := List.isSuffixOf_iff_suffix.1 isSuffix
  exact plain.unstroked (ends ▸ List.mem_append_right _ (by simp))

/-- A plain name leads somewhere. -/
theorem leads (plain : IsPlainName name) : (name != "" && name != ".") = true := by
  simp [plain.nonempty, plain.notHere]

/-- A plain name is followed one step down. -/
theorem follow_eq_child (plain : IsPlainName name) (location : Location) :
    location.follow name = location.child name :=
  if_neg plain.notAbove

/-- A plain name is the only component of its path. -/
theorem components_eq (plain : IsPlainName name) : components name = [name] := by
  rw [components, Text.split, Text.splitChars_of_not_mem plain.unstroked, List.map_singleton,
    String.ofList_toList, List.filter_singleton, plain.leads, cond_true]

/-- The path of a plain name starts in the work folder. -/
theorem start_eq (plain : IsPlainName name) : start name = .work := by
  simp [start, plain.not_beginsWith]

/-- The path of a file in a folder of a plain name. -/
theorem join_eq (plain : IsPlainName folder) (plainFile : IsPlainName file) :
    join folder file = folder ++ "/" ++ file := by
  simp [join, plain.not_endsWith, plain.nonempty, plainFile.not_beginsWith]

/-- The components of the path of a file in a folder. -/
theorem components_join (plain : IsPlainName folder) (plainFile : IsPlainName file) :
    components (join folder file) = [folder, file] := by
  have pieces : Text.split '/' (join folder file) = [folder, file] := by
    have stroke : "/".toList = ['/'] := by decide
    rw [plain.join_eq plainFile, Text.split, String.toList_append, String.toList_append, stroke,
      List.append_assoc, List.singleton_append, Text.splitChars_append_cons,
      Text.splitChars_of_not_mem plain.unstroked, Text.splitChars_of_not_mem plainFile.unstroked]
    simp
  rw [components, pieces, List.filter_eq_self]
  simp only [List.forall_mem_cons, plain.leads, plainFile.leads, List.not_mem_nil, false_implies,
    implies_true, and_self]

/-- The path of a file in a folder of a plain name starts in the work folder. -/
theorem start_join (plain : IsPlainName folder) (plainFile : IsPlainName file) :
    start (join folder file) = .work := by
  have relative : Text.beginsWith (join folder file) "/" = false := by
    rw [Text.beginsWith, Bool.eq_false_iff]
    intro isPrefix
    obtain ⟨rest, begins⟩ := List.isPrefixOf_iff_prefix.1 isPrefix
    rw [plain.join_eq plainFile, String.append_assoc, String.toList_append] at begins
    have nonempty : folder.toList ≠ [] := by
      simpa using plain.nonempty
    obtain ⟨first, more, chars⟩ := List.exists_cons_of_ne_nil nonempty
    rw [chars] at begins
    obtain rfl : '/' = first := (List.cons.inj begins).1
    exact plain.unstroked (chars ▸ List.mem_cons_self ..)
  simp [start, relative]

end IsPlainName

end Path

namespace Location

/-- The only location that a path can lead to. -/
def ofPath (path : String) : Location :=
  (Path.components path).foldl follow (Path.start path)

/-- The path of a file in a folder of a plain name can only lead to that file. -/
theorem ofPath_join {folder file : String} (plain : Path.IsPlainName folder)
    (plainFile : Path.IsPlainName file) :
    ofPath (Path.join folder file) = (work.child folder).child file := by
  rw [ofPath, plain.components_join plainFile, plain.start_join plainFile, List.foldl_cons,
    List.foldl_cons, List.foldl_nil, plain.follow_eq_child, plainFile.follow_eq_child]

/-- A location lies within another when it has the same anchor and more names behind the same
ones. -/
theorem isWithin_iff {location folder : Location} :
    location.isWithin folder = true ↔
      location.anchor = folder.anchor ∧ folder.names <+: location.names := by
  rw [isWithin, Bool.and_eq_true, beq_iff_eq, List.isPrefixOf_iff_prefix]

/-- A location lies within itself. -/
@[simp] theorem isWithin_self (location : Location) : location.isWithin location = true :=
  isWithin_iff.2 ⟨rfl, List.prefix_refl _⟩

/-- What lies in a folder lies within it. -/
@[simp] theorem child_isWithin (folder : Location) (name : String) :
    (folder.child name).isWithin folder = true :=
  isWithin_iff.2 ⟨rfl, List.prefix_append ..⟩

end Location

namespace Disk

/-- A path that is followed on a disk leads to the only location that it can lead to. -/
theorem foldl_follow_of_followAll {disk : Disk} {start location : Location}
    {components : List String} (leads : disk.followAll start components = .ok location) :
    components.foldl Location.follow start = location := by
  rw [followAll] at leads
  induction components generalizing start with
  | nil => exact Outcome.pure_eq_ok.1 leads
  | cons component rest inductionHypothesis =>
      rw [List.foldlM_cons, Outcome.bind_eq_ok] at leads
      obtain ⟨next, first, later⟩ := leads
      obtain ⟨_, _, rfl⟩ := step_eq_ok.1 first
      exact inductionHypothesis later

/-- A file is found at the only location that its path can lead to. -/
theorem ofPath_of_locateFile {disk : Disk} {path : String} {location : Location}
    (leads : disk.locateFile path = .ok location) : Location.ofPath path = location :=
  foldl_follow_of_followAll (locateFile_eq_ok.1 leads).2.2.1

/-- The work folder is always there. -/
@[simp] theorem isFolder_work (disk : Disk) : disk.isFolder .work = true := rfl

/-! ## Removing and making a folder -/

variable {disk : Disk} {folder : String}

/-- The path of a plain name is followed one step down, unless the name is too long. -/
theorem followAll_plain (plain : Path.IsPlainName folder) (disk : Disk) :
    disk.followAll .work [folder] =
      if Path.longestName < folder.utf8ByteSize then .error .nameTooLong
      else .ok (Location.work.child folder) := by
  have stepped : disk.followAll .work [folder] = disk.step .work folder := bind_pure _
  rw [stepped, step, enter, isFolder_work, if_pos rfl, Outcome.ok_bind, plain.follow_eq_child]
  split <;> rfl

/-- What removing the folder of a plain name does. -/
theorem removeFolder_plain (plain : Path.IsPlainName folder) (disk : Disk) :
    disk.removeFolder folder =
      match Path.check folder with
      | .error .nameTooLong => (disk, some .nameTooLong)
      | .error _ => (disk, none)
      | .ok () =>
          if Path.longestName < folder.utf8ByteSize then (disk, some .nameTooLong)
          else if disk.isFolder (Location.work.child folder) then
            (disk.removeWithin (Location.work.child folder), none)
          else if disk.isFile (Location.work.child folder) then
            (disk, some .fileInPlaceOfFolder)
          else (disk, none) := by
  have located : disk.locate folder = (Path.check folder).bind fun _ =>
      if Path.longestName < folder.utf8ByteSize then .error .nameTooLong
      else .ok (Location.work.child folder) := by
    rw [← followAll_plain plain disk, ← plain.components_eq, ← plain.start_eq]
    rfl
  rw [removeFolder, located]
  cases Path.check folder with
  | error fault => cases fault <;> rfl
  | ok _ =>
      by_cases long : Path.longestName < folder.utf8ByteSize
      · simp only [Except.bind, if_pos long]
      · simp only [Except.bind, if_neg long]
        rfl

/-- What making the folder of a plain name does. -/
theorem makeFolders_plain (plain : Path.IsPlainName folder) (disk : Disk) :
    disk.makeFolders folder =
      match Path.check folder with
      | .error fault => (disk, some fault)
      | .ok () =>
          if Path.longestName < folder.utf8ByteSize then (disk, some .nameTooLong)
          else if disk.isFile (Location.work.child folder) then (disk, some .fileInTheWay)
          else (disk.addFolder (Location.work.child folder), none) := by
  have created : disk.create .work [folder] =
      if Path.longestName < folder.utf8ByteSize then .error .nameTooLong
      else disk.createAt (Location.work.child folder) := by
    rw [create, followAll_plain plain]
    split <;> rfl
  rw [makeFolders, plain.components_eq, plain.start_eq]
  cases Path.check folder with
  | error fault => rfl
  | ok _ =>
      simp only [List.reverse_singleton, createAll, created, createAt]
      by_cases long : Path.longestName < folder.utf8ByteSize
      · simp only [if_pos long]
      · by_cases isFile : disk.isFile (Location.work.child folder) = true
        · simp only [if_neg long, if_pos isFile]
        · simp only [if_neg long, if_neg isFile]

/-- Removing the folder of a plain name removes everything within it, or changes nothing. -/
theorem removeFolder_cases (plain : Path.IsPlainName folder) (disk : Disk) :
    (disk.removeFolder folder).1 = disk ∨
      (disk.removeFolder folder).1 = disk.removeWithin (Location.work.child folder) := by
  rw [removeFolder_plain plain]
  split
  · exact .inl rfl
  · exact .inl rfl
  · split
    · exact .inl rfl
    · split
      · exact .inr rfl
      · split <;> exact .inl rfl

/-- Making the folder of a plain name makes that folder, or changes nothing. -/
theorem makeFolders_cases (plain : Path.IsPlainName folder) (disk : Disk) :
    (disk.makeFolders folder).1 = disk ∨
      (disk.makeFolders folder).1 = disk.addFolder (Location.work.child folder) := by
  rw [makeFolders_plain plain]
  split
  · exact .inl rfl
  · split
    · exact .inl rfl
    · split
      · exact .inl rfl
      · exact .inr rfl

/-- When the folder of a plain name is removed and made again without a fault, it is there, and
either everything within it was removed before or there was neither a folder nor a file of that
name. -/
theorem made_of_returns {removed made : Disk} (plain : Path.IsPlainName folder)
    (removes : disk.removeFolder folder = (removed, none))
    (makes : removed.makeFolders folder = (made, none)) :
    made = removed.addFolder (Location.work.child folder) ∧
      (removed = disk.removeWithin (Location.work.child folder) ∨
        removed = disk ∧ disk.isFolder (Location.work.child folder) = false ∧
          disk.isFile (Location.work.child folder) = false) := by
  rw [makeFolders_plain plain] at makes
  rw [removeFolder_plain plain] at removes
  cases checked : Path.check folder with
  | error fault => simp [checked] at makes
  | ok _ =>
      by_cases long : Path.longestName < folder.utf8ByteSize
      · simp [checked, long] at makes
      · simp only [checked, if_neg long] at makes removes
        refine ⟨?_, ?_⟩
        · split at makes
          · simp at makes
          · exact (Prod.mk.inj makes).1.symm
        · split at removes
          · exact .inl (Prod.mk.inj removes).1.symm
          · next noFolder =>
              split at removes
              · simp at removes
              · next noFile =>
                  exact .inr ⟨(Prod.mk.inj removes).1.symm, by simpa using noFolder,
                    by simpa using noFile⟩

/-! ## A folder made anew -/

/-- A disk with an empty folder in place of whatever was within its location. -/
def renew (disk : Disk) (folder : Location) : Disk :=
  (disk.removeWithin folder).addFolder folder

/-- The content of a file after the removal of a folder. -/
theorem contentAt?_removeWithin (disk : Disk) (folder location : Location) :
    (disk.removeWithin folder).contentAt? location =
      if location.isWithin folder then none else disk.contentAt? location := by
  rw [contentAt?, removeWithin, lookup_filter fun there => !there.isWithin folder]
  cases location.isWithin folder <;> simp [contentAt?]

/-- Making a folder changes no file. -/
@[simp] theorem contentAt?_addFolder (disk : Disk) (folder location : Location) :
    (disk.addFolder folder).contentAt? location = disk.contentAt? location := by
  rw [addFolder]
  split <;> rfl

/-- There is a folder where one is made, and where there was one before. -/
theorem isFolder_addFolder (disk : Disk) (folder location : Location) :
    (disk.addFolder folder).isFolder location = true ↔
      location = folder ∨ disk.isFolder location = true := by
  rw [addFolder]
  split
  · next present =>
      exact ⟨.inr, fun either => either.elim (fun same => same ▸ present) id⟩
  · simp [isFolder, or_left_comm, or_comm]

/-- A folder made anew holds no file, and every file elsewhere stays. -/
theorem contentAt?_renew (disk : Disk) (folder location : Location) :
    (disk.renew folder).contentAt? location =
      if location.isWithin folder then none else disk.contentAt? location := by
  rw [renew, contentAt?_addFolder, contentAt?_removeWithin]

/-- A folder made anew is the only folder within its location. -/
theorem isFolder_renew {location : Location} (disk : Disk) {folder : Location}
    (named : folder.names ≠ []) (isWithin : location.isWithin folder = true) :
    (disk.renew folder).isFolder location = true ↔ location = folder := by
  have nonempty : location.names ≠ [] := by
    obtain ⟨more, names⟩ := (Location.isWithin_iff.1 isWithin).2
    simp [← names, named]
  rw [renew, isFolder_addFolder]
  simp [isFolder, removeWithin, isWithin, nonempty]

/-! ## Outside a folder -/

/-- A disk has the same file and the same folder at a location as another one. -/
def AgreeAt (location : Location) (disk other : Disk) : Prop :=
  disk.contentAt? location = other.contentAt? location ∧
    disk.isFolder location = other.isFolder location

/-- Removing a folder changes nothing outside it. -/
theorem agreeAt_removeWithin {location folder : Location}
    (outside : location.isWithin folder = false) (disk : Disk) :
    AgreeAt location (disk.removeWithin folder) disk := by
  constructor
  · simp [contentAt?_removeWithin, outside]
  · simp [isFolder, removeWithin, outside]

/-- Making a folder changes nothing outside it. -/
theorem agreeAt_addFolder {location folder : Location}
    (outside : location.isWithin folder = false) (disk : Disk) :
    AgreeAt location (disk.addFolder folder) disk := by
  have differs : location ≠ folder := by
    rintro rfl
    simp at outside
  refine ⟨contentAt?_addFolder disk folder location, ?_⟩
  rw [Bool.eq_iff_iff, isFolder_addFolder]
  exact or_iff_right differs

/-- Writing a file changes nothing outside the folder that it lies in. -/
theorem agreeAt_put {location folder written : Location}
    (outside : location.isWithin folder = false)
    (inside : written.isWithin folder = true) (disk : Disk) (content : String) :
    AgreeAt location (disk.put written content) disk := by
  have differs : location ≠ written := by
    rintro rfl
    simp [inside] at outside
  exact ⟨contentAt?_put_of_ne differs disk content, rfl⟩

end Disk

end ApiStubs
