import ApiStubs.Proofs.Disk.Folder
import ApiStubs.Proofs.Run

/-!
# Disks as trees

On the disk of a machine everything lies in a folder. The type of disks does not ask for it, so it
is a property here, `IsTree`; every step of a run keeps it, whatever path the step is given. What it
brings is `isFolder_of_isWithin`: nothing lies within a folder that does not exist. So removing a
folder and making it again leaves an empty folder, whether there was one before or not.
-/

namespace ApiStubs

namespace Location

/-- What leads one step down from a folder lies in that folder. -/
@[simp] theorem parent_child (folder : Location) (name : String) :
    (folder.child name).parent = folder := by
  have named : folder.names ++ [name] ≠ [] := by simp
  cases names : folder.names ++ [name] with
  | nil => exact absurd names named
  | cons first rest =>
      rw [parent, child, names]
      simp only [← names, List.dropLast_concat]

/-- A location with names lies in what the names but the last lead to. -/
theorem parent_of_names {location : Location} (named : location.names ≠ []) :
    location.parent = ⟨location.anchor, location.names.dropLast⟩ := by
  cases names : location.names with
  | nil => exact absurd names named
  | cons first rest => simp only [parent, names]

/-- What lies above the start of all names has no name either. -/
theorem names_parent_of_nil {location : Location} (nameless : location.names = []) :
    location.parent.names = [] := by
  obtain ⟨anchor, names⟩ := location
  obtain rfl : names = [] := nameless
  cases anchor <;> rfl

/-- What lies within a folder without being that folder lies in something within it. -/
theorem isWithin_parent {location folder : Location} (isWithin : location.isWithin folder = true)
    (differs : location ≠ folder) : location.parent.isWithin folder = true := by
  obtain ⟨sameAnchor, more, names⟩ := isWithin_iff.1 isWithin
  have moreNames : more ≠ [] := by
    rintro rfl
    rw [List.append_nil] at names
    exact differs (Location.mk.injEq .. ▸ ⟨sameAnchor, names.symm⟩)
  have named : location.names ≠ [] := by simp [← names, moreNames]
  rw [parent_of_names named, isWithin_iff]
  refine ⟨sameAnchor, ?_⟩
  rw [← names, List.dropLast_append_of_ne_nil moreNames]
  exact List.prefix_append ..

/-- What lies in something within a folder lies within that folder. -/
theorem isWithin_of_parent {location folder : Location} (named : location.names ≠ [])
    (inside : location.parent.isWithin folder = true) : location.isWithin folder = true := by
  rw [parent_of_names named, isWithin_iff] at inside
  exact isWithin_iff.2 ⟨inside.1, inside.2.trans (List.dropLast_prefix _)⟩

end Location

namespace Disk

/-- Everything on a disk lies in a folder. -/
structure IsTree (disk : Disk) : Prop where
  folders : ∀ location ∈ disk.folders, disk.isFolder location.parent = true
  files : ∀ file ∈ disk.files, disk.isFolder file.1.parent = true

instance (disk : Disk) : Decidable disk.IsTree :=
  decidable_of_iff ((∀ location ∈ disk.folders, disk.isFolder location.parent = true) ∧
      ∀ file ∈ disk.files, disk.isFolder file.1.parent = true)
    ⟨fun both => ⟨both.1, both.2⟩, fun tree => ⟨tree.folders, tree.files⟩⟩

/-- A location without names is a folder. -/
theorem isFolder_of_nil (disk : Disk) {location : Location} (nameless : location.names = []) :
    disk.isFolder location = true := by
  simp [isFolder, nameless]

namespace IsTree

variable {disk : Disk}

/-- A folder lies in a folder. -/
theorem isFolder_parent (tree : disk.IsTree) {location : Location}
    (isFolder : disk.isFolder location = true) : disk.isFolder location.parent = true := by
  rw [Disk.isFolder, Bool.or_eq_true] at isFolder
  rcases isFolder with nameless | present
  · exact disk.isFolder_of_nil (Location.names_parent_of_nil (List.isEmpty_iff.1 nameless))
  · exact tree.folders location (List.contains_iff_mem.1 present)

/-- Wherever components lead from something in a folder lies in a folder. -/
theorem isFolder_parent_of_followAll (tree : disk.IsTree) {start location : Location}
    {components : List String} (inside : disk.isFolder start.parent = true)
    (leads : disk.followAll start components = .ok location) :
    disk.isFolder location.parent = true := by
  rw [followAll] at leads
  induction components generalizing start with
  | nil => exact Outcome.pure_eq_ok.1 leads ▸ inside
  | cons component rest inductionHypothesis =>
      rw [List.foldlM_cons, Outcome.bind_eq_ok] at leads
      obtain ⟨next, first, later⟩ := leads
      obtain ⟨isFolder, _, rfl⟩ := step_eq_ok.1 first
      refine inductionHypothesis ?_ later
      rw [Location.follow]
      split
      · exact tree.isFolder_parent (tree.isFolder_parent isFolder)
      · rwa [Location.parent_child]

/-- A path starts in a folder. -/
theorem isFolder_parent_start (disk : Disk) (path : String) :
    disk.isFolder (Path.start path).parent = true := by
  rw [Path.start]
  split <;> rfl

/-- Writing a file that lies in a folder leaves a tree. -/
theorem put (tree : disk.IsTree) {location : Location}
    (inside : disk.isFolder location.parent = true) (content : String) :
    (disk.put location content).IsTree where
  folders := tree.folders
  files := by
    intro file member
    rcases List.mem_append.1 member with before | new
    · exact tree.files file (List.mem_filter.1 before).1
    · obtain rfl := List.mem_singleton.1 new
      exact inside

/-- Making a folder that lies in a folder leaves a tree. -/
theorem addFolder (tree : disk.IsTree) {location : Location}
    (inside : disk.isFolder location.parent = true) : (disk.addFolder location).IsTree := by
  have stays {other : Location} (isFolder : disk.isFolder other = true) :
      (disk.addFolder location).isFolder other = true :=
    (isFolder_addFolder disk location other).2 (.inr isFolder)
  refine ⟨fun other member => ?_, fun file member => stays ?_⟩
  · have isFolder : (disk.addFolder location).isFolder other = true := by
      simp [Disk.isFolder, member]
    rcases (isFolder_addFolder disk location other).1 isFolder with rfl | before
    · exact stays inside
    · exact stays (tree.isFolder_parent before)
  · refine tree.files file ?_
    rw [Disk.addFolder] at member
    split at member <;> exact member

/-- Removing a folder leaves a tree. -/
theorem removeWithin (tree : disk.IsTree) (folder : Location) :
    (disk.removeWithin folder).IsTree := by
  -- What stays does not lie in anything removed, since that would have been removed with it.
  have stays {location : Location} (outside : location.isWithin folder = false)
      (inside : disk.isFolder location.parent = true) :
      (disk.removeWithin folder).isFolder location.parent = true := by
    by_cases nameless : location.names = []
    · exact Disk.isFolder_of_nil _ (Location.names_parent_of_nil nameless)
    · have parentOutside : location.parent.isWithin folder = false := by
        rw [Bool.eq_false_iff]
        intro parentInside
        rw [Location.isWithin_of_parent nameless parentInside] at outside
        cases outside
      simp only [Disk.isFolder, Disk.removeWithin, List.contains_iff_mem, List.mem_filter,
        parentOutside, Bool.or_eq_true] at inside ⊢
      exact inside.imp id fun present => ⟨present, rfl⟩
  refine ⟨fun location member => ?_, fun file member => ?_⟩
  · obtain ⟨present, outside⟩ := List.mem_filter.1 member
    exact stays (by simpa using outside) (tree.folders location present)
  · obtain ⟨present, outside⟩ := List.mem_filter.1 member
    exact stays (by simpa using outside) (tree.files file present)

/-- Nothing lies within a folder that does not exist. -/
theorem isFolder_of_isWithin (tree : disk.IsTree) {location folder : Location}
    (isWithin : location.isWithin folder = true) (isFolder : disk.isFolder location = true) :
    disk.isFolder folder = true := by
  -- One step up from a location within the folder leads to the folder or to such a location again.
  induction length : location.names.length generalizing location with
  | zero =>
      obtain ⟨more, names⟩ := (Location.isWithin_iff.1 isWithin).2
      rw [List.length_eq_zero_iff.1 length, List.append_eq_nil_iff] at names
      exact disk.isFolder_of_nil names.1
  | succ count inductionHypothesis =>
      by_cases same : location = folder
      · exact same ▸ isFolder
      · have named : location.names ≠ [] := by
          rintro nameless
          simp [nameless] at length
        refine inductionHypothesis (Location.isWithin_parent isWithin same)
          (tree.isFolder_parent isFolder) ?_
        rw [Location.parent_of_names named, List.length_dropLast, length]
        rfl

/-- Removing a folder that does not exist, and is no file either, removes nothing. -/
theorem removeWithin_of_absent (tree : disk.IsTree) {folder : Location}
    (noFolder : disk.isFolder folder = false) (noFile : disk.isFile folder = false) :
    disk.removeWithin folder = disk := by
  have folders : ∀ location ∈ disk.folders, (!location.isWithin folder) = true := by
    intro location member
    rw [Bool.not_eq_true', Bool.eq_false_iff]
    intro isWithin
    have isFolder : disk.isFolder location = true := by simp [Disk.isFolder, member]
    rw [tree.isFolder_of_isWithin isWithin isFolder] at noFolder
    cases noFolder
  have files : ∀ file ∈ disk.files, (!file.1.isWithin folder) = true := by
    intro file member
    rw [Bool.not_eq_true', Bool.eq_false_iff]
    intro isWithin
    by_cases same : file.1 = folder
    · rw [isFile, contentAt?, Option.isSome_eq_false_iff, Option.isNone_iff_eq_none,
        List.lookup_eq_none_iff] at noFile
      have differs := noFile file member
      simp [same] at differs
    · have isFolder := tree.isFolder_of_isWithin (Location.isWithin_parent isWithin same)
        (tree.files file member)
      rw [isFolder] at noFolder
      cases noFolder
  rw [Disk.removeWithin, List.filter_eq_self.2 folders, List.filter_eq_self.2 files]

/-- Making a folder and those on the way to it leaves a tree, also when a fault ends it. -/
theorem createAll (tree : disk.IsTree) {start : Location}
    (inside : disk.isFolder start.parent = true) (components : List String) :
    (disk.createAll start components).1.IsTree ∧
      (disk.createAll start components).1.isFolder start.parent = true := by
  have createKeeps {current made : Disk} {names : List String} (tree : current.IsTree)
      (inside : current.isFolder start.parent = true)
      (makes : current.create start names = .ok made) :
      made.IsTree ∧ made.isFolder start.parent = true := by
    obtain ⟨location, leads, creates⟩ := Outcome.bind_eq_ok.1 makes
    rw [createAt] at creates
    split at creates
    · cases creates
    · obtain rfl := Except.ok.inj creates
      exact ⟨tree.addFolder (tree.isFolder_parent_of_followAll inside leads),
        (isFolder_addFolder ..).2 (.inr inside)⟩
  induction components with
  | nil => exact ⟨tree, inside⟩
  | cons last above inductionHypothesis =>
      rw [Disk.createAll]
      split
      · next made makes => exact createKeeps tree inside makes
      · -- The folders on the way come first, and what was made of them stays.
        generalize Disk.createAll disk start above = performed at inductionHypothesis ⊢
        obtain ⟨current, fault?⟩ := performed
        cases fault? with
        | some fault => exact inductionHypothesis
        | none =>
            simp only
            split
            · next made makes =>
                exact createKeeps inductionHypothesis.1 inductionHypothesis.2 makes
            · exact inductionHypothesis
      · exact ⟨tree, inside⟩

/-- Making the folder that a path leads to leaves a tree. -/
theorem makeFolders (tree : disk.IsTree) (path : String) : (disk.makeFolders path).1.IsTree := by
  rw [Disk.makeFolders]
  split
  · exact tree
  · exact (tree.createAll (isFolder_parent_start disk path) _).1

/-- Removing the folder that a path leads to leaves a tree. -/
theorem removeFolder (tree : disk.IsTree) (path : String) :
    (disk.removeFolder path).1.IsTree := by
  rw [Disk.removeFolder]
  split
  · exact tree
  · exact tree
  · next location _ =>
      split
      · simp only
        split
        · exact tree.removeWithin location
        · exact tree
      · split
        · exact tree.removeWithin location
        · split <;> exact tree

end IsTree

/-- A folder that is removed and made again without a fault is made anew. -/
theorem IsTree.renew_of_returns {disk removed made : Disk} {folder : String} (tree : disk.IsTree)
    (plain : Path.IsPlainName folder) (removes : disk.removeFolder folder = (removed, none))
    (makes : removed.makeFolders folder = (made, none)) :
    made = disk.renew (Location.work.child folder) := by
  obtain ⟨rfl, rfl | ⟨rfl, noFolder, noFile⟩⟩ := made_of_returns plain removes makes
  · rfl
  · rw [renew, tree.removeWithin_of_absent noFolder noFile]

end Disk

namespace Run

open Disk

/-- Removing a folder leaves a tree. -/
theorem keeps_isTree_removeFolder (path : String) : Keeps IsTree (removeFolder path) :=
  keeps_changeDisk fun _ tree => tree.removeFolder path

/-- Making a folder leaves a tree. -/
theorem keeps_isTree_makeFolders (path : String) : Keeps IsTree (makeFolders path) :=
  keeps_changeDisk fun _ tree => tree.makeFolders path

/-- Saving a file leaves a tree. -/
theorem keeps_isTree_save (path content : String) : Keeps IsTree (save path content) := by
  refine keeps_save fun disk location tree leads => tree.put ?_ content
  exact tree.isFolder_parent_of_followAll (IsTree.isFolder_parent_start disk path)
    (locateFile_eq_ok.1 leads).2.2.1

end Run

end ApiStubs
