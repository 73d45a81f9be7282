import ApiStubs.Disk
import ApiStubs.Proofs.Outcome

/-!
# What a write changes on a disk

Where a path leads depends on the folders of a disk alone, so writing a file does not change where
any path leads. A file whose name holds no stroke stands under that name in the folder of its path;
so files with different names are different files, and writing one leaves the others as they are.
-/

namespace ApiStubs

namespace Path

/-- The path of a file whose name holds no stroke is that name, behind a stroke when something
stands in front of it. -/
theorem toList_join_cases (folder : String) {file : String} (unstroked : '/' ∉ file.toList) :
    (join folder file).toList = file.toList ∨
      ∃ above, (join folder file).toList = above ++ '/' :: file.toList := by
  have relative : Text.beginsWith file "/" = false := by
    rw [Text.beginsWith, Bool.eq_false_iff]
    intro isPrefix
    obtain ⟨rest, begins⟩ := List.isPrefixOf_iff_prefix.1 isPrefix
    exact unstroked (begins ▸ List.mem_append_left _ (by simp))
  rw [join, if_neg (by simp [relative])]
  split
  · next stands =>
      rcases Bool.or_eq_true_iff.1 stands with void | ends
      · rw [of_decide_eq_true void, String.empty_append]
        exact .inl rfl
      · obtain ⟨above, ends⟩ := List.isSuffixOf_iff_suffix.1 ends
        refine .inr ⟨above, ?_⟩
        rw [String.toList_append, ← ends, List.append_assoc]
        rfl
  · exact .inr ⟨folder.toList, by simp⟩

/-- The path of a file whose name holds no stroke ends with that name. -/
theorem exists_components_join (folder : String) {file : String} (unstroked : '/' ∉ file.toList)
    (nonempty : file ≠ "") (notHere : file ≠ ".") :
    ∃ above, components (join folder file) = above ++ [file] := by
  have last : ∃ above, Text.split '/' (join folder file) = above ++ [file] := by
    rw [Text.split]
    rcases toList_join_cases folder unstroked with alone | ⟨above, behind⟩
    · exact ⟨[], by simp [alone, Text.splitChars_of_not_mem unstroked]⟩
    · refine ⟨(Text.splitChars '/' above).map String.ofList, ?_⟩
      simp [behind, Text.splitChars_append_cons, Text.splitChars_of_not_mem unstroked]
  obtain ⟨above, pieces⟩ := last
  refine ⟨above.filter fun component => component != "" && component != ".", ?_⟩
  have leads : (file != "" && file != ".") = true := by simp [nonempty, notHere]
  rw [components, pieces, List.filter_append, List.filter_singleton, leads, cond_true]

end Path

namespace Disk

/-- The files whose locations have a property are found where they were, and no others are. -/
theorem lookup_filter (keeps : Location → Bool) (files : List (Location × String))
    (location : Location) :
    (files.filter fun file => keeps file.1).lookup location =
      if keeps location then files.lookup location else none := by
  induction files with
  | nil => simp
  | cons file rest inductionHypothesis =>
      obtain ⟨there, content⟩ := file
      by_cases same : location = there
      · subst same
        cases kept : keeps location with
        | true => simp [kept]
        | false => simpa [kept] using inductionHypothesis
      · have differs : (location == there) = false := by simpa using same
        rw [List.lookup_cons, differs, List.filter_cons]
        split
        · rw [List.lookup_cons, differs]
          exact inductionHypothesis
        · exact inductionHypothesis

/-- Writing one file leaves every other file as it was. -/
theorem contentAt?_put_of_ne {location other : Location} (differs : other ≠ location)
    (disk : Disk) (content : String) :
    (disk.put location content).contentAt? other = disk.contentAt? other := by
  have added : List.lookup other [(location, content)] = none := by
    simp [List.lookup_cons, beq_eq_false_iff_ne.2 differs]
  have kept : (other != location) = true := bne_iff_ne.2 differs
  rw [put, contentAt?, contentAt?, List.lookup_append, added, Option.or_none,
    lookup_filter fun there => there != location, if_pos kept]

/-- Write several files into a folder, one after the other. -/
def putAll (disk : Disk) (folder : Location) (files : List (String × String)) : Disk :=
  files.foldl (fun disk file => disk.put (folder.child file.1) file.2) disk

/-- Some files are written after others when all of them are. -/
theorem putAll_append (disk : Disk) (folder : Location) (files others : List (String × String)) :
    disk.putAll folder (files ++ others) = (disk.putAll folder files).putAll folder others :=
  List.foldl_append

/-- Writing files makes no folder. -/
@[simp] theorem isFolder_putAll (disk : Disk) (folder : Location) (files : List (String × String))
    (location : Location) :
    (disk.putAll folder files).isFolder location = disk.isFolder location := by
  induction files generalizing disk with
  | nil => rfl
  | cons file rest inductionHypothesis => exact inductionHypothesis (disk.put _ _)

/-- What was the same on two disks is the same after the same files are written to both. -/
theorem contentAt?_putAll_congr {disk other : Disk} {location : Location}
    (same : disk.contentAt? location = other.contentAt? location) (folder : Location)
    (files : List (String × String)) :
    (disk.putAll folder files).contentAt? location =
      (other.putAll folder files).contentAt? location := by
  induction files generalizing disk other with
  | nil => exact same
  | cons file rest inductionHypothesis =>
      refine inductionHypothesis ?_
      by_cases here : location = folder.child file.1
      · rw [here, contentAt?_put_self, contentAt?_put_self]
      · rw [contentAt?_put_of_ne here, contentAt?_put_of_ne here, same]

/-- The files after several are written are those from before and the written ones. -/
theorem isFile_putAll (disk : Disk) (folder : Location) (files : List (String × String))
    (location : Location) :
    (disk.putAll folder files).isFile location = true ↔
      disk.isFile location = true ∨ ∃ file ∈ files, location = folder.child file.1 := by
  induction files generalizing disk with
  | nil => simp [putAll]
  | cons file rest inductionHypothesis =>
      have first : (disk.put (folder.child file.1) file.2).isFile location = true ↔
          disk.isFile location = true ∨ location = folder.child file.1 := by
        by_cases here : location = folder.child file.1
        · simp [isFile, here]
        · simp [isFile, contentAt?_put_of_ne here, here]
      have folded : disk.putAll folder (file :: rest) =
          (disk.put (folder.child file.1) file.2).putAll folder rest := rfl
      rw [folded, inductionHypothesis, first, or_assoc]
      simp only [List.mem_cons, exists_eq_or_imp]

/-- A location can be entered when there is a folder. -/
theorem enter_eq_ok {disk : Disk} {location folder : Location} :
    disk.enter location = .ok folder ↔ disk.isFolder location = true ∧ location = folder := by
  rw [enter]
  split
  · next isFolder => simp [isFolder]
  · next isNone =>
      split <;> simp [isNone]

/-- A component is followed from a folder, unless its name is too long. -/
theorem step_eq_ok {disk : Disk} {location next : Location} {component : String} :
    disk.step location component = .ok next ↔
      disk.isFolder location = true ∧ component.utf8ByteSize ≤ Path.longestName ∧
        location.follow component = next := by
  simp only [step, Outcome.bind_eq_ok, enter_eq_ok]
  constructor
  · rintro ⟨folder, ⟨isFolder, rfl⟩, followed⟩
    split at followed
    · cases followed
    · next fits => exact ⟨isFolder, Nat.not_lt.1 fits, Outcome.pure_eq_ok.1 followed⟩
  · rintro ⟨isFolder, fits, rfl⟩
    refine ⟨location, ⟨isFolder, rfl⟩, ?_⟩
    rw [if_neg (Nat.not_lt.2 fits)]
    rfl

/-- A path leads to the file at a location exactly when its components do and no folder is there. -/
theorem locateFile_eq_ok {disk : Disk} {path : String} {location : Location} :
    disk.locateFile path = .ok location ↔
      path ≠ "" ∧ Path.check path = .ok () ∧
        disk.followAll (Path.start path) (Path.components path) = .ok location ∧
        Path.endsInFolder path = false ∧ disk.isFolder location = false := by
  rw [locateFile]
  by_cases void : path = ""
  · rw [if_pos void, Outcome.throw_bind]
    simp [void]
  rw [if_neg void]
  simp only [locate, Outcome.bind_eq_ok]
  constructor
  · rintro ⟨found, ⟨_, checked, followed⟩, leads⟩
    cases ends : Path.endsInFolder path with
    | true =>
        -- A path that can only lead to a folder leads to one or to a fault.
        rw [ends, if_pos rfl, Outcome.bind_eq_ok] at leads
        obtain ⟨_, entered, leads⟩ := leads
        obtain ⟨folder, enters, _⟩ := Outcome.map_eq_ok.1 entered
        rw [if_pos (enter_eq_ok.1 enters).1, Outcome.throw_bind] at leads
        cases leads
    | false =>
        rw [ends, if_neg (by simp)] at leads
        split at leads
        · cases leads
        · next isFile =>
            obtain rfl := Outcome.pure_eq_ok.1 leads
            exact ⟨void, checked, followed, rfl, by simpa using isFile⟩
  · rintro ⟨_, checked, followed, ends, isFile⟩
    refine ⟨location, ⟨(), checked, followed⟩, ?_⟩
    rw [ends, isFile]
    rfl

/-- Where components lead depends on the folders alone. -/
theorem followAll_of_folders {disk other : Disk} (same : other.folders = disk.folders)
    {start location : Location} {components : List String}
    (leads : disk.followAll start components = .ok location) :
    other.followAll start components = .ok location := by
  rw [followAll] at leads ⊢
  induction components generalizing start with
  | nil => exact leads
  | cons component rest inductionHypothesis =>
      rw [List.foldlM_cons, Outcome.bind_eq_ok] at leads ⊢
      obtain ⟨next, first, later⟩ := leads
      refine ⟨next, ?_, inductionHypothesis later⟩
      rw [step_eq_ok, isFolder] at first ⊢
      rwa [same]

/-- Where a path leads depends on the folders alone. -/
theorem locateFile_of_folders {disk other : Disk} (same : other.folders = disk.folders)
    {path : String} {location : Location} (leads : disk.locateFile path = .ok location) :
    other.locateFile path = .ok location := by
  obtain ⟨nonempty, checked, followed, isFile, absent⟩ := locateFile_eq_ok.1 leads
  refine locateFile_eq_ok.2 ⟨nonempty, checked, followAll_of_folders same followed, isFile, ?_⟩
  rw [isFolder] at absent ⊢
  rwa [same]

/-- The file that a path leads to has the name at the end of the path. -/
theorem getLast?_names_of_locateFile {disk : Disk} {folder file : String}
    (unstroked : '/' ∉ file.toList) (nonempty : file ≠ "") (notHere : file ≠ ".")
    (notAbove : file ≠ "..") {location : Location}
    (leads : disk.locateFile (Path.join folder file) = .ok location) :
    location.names.getLast? = some file := by
  obtain ⟨above, components⟩ := Path.exists_components_join folder unstroked nonempty notHere
  obtain ⟨_, _, followed, _⟩ := locateFile_eq_ok.1 leads
  rw [followAll, components, List.foldlM_append, Outcome.bind_eq_ok] at followed
  obtain ⟨inside, _, last⟩ := followed
  rw [List.foldlM_cons, Outcome.bind_eq_ok] at last
  obtain ⟨next, stepped, ends⟩ := last
  obtain rfl := Outcome.pure_eq_ok.1 ends
  obtain ⟨_, _, rfl⟩ := step_eq_ok.1 stepped
  rw [Location.follow, if_neg notAbove, Location.child, List.getLast?_concat]

end Disk

end ApiStubs
