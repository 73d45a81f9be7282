import ApiStubs.Fault
import ApiStubs.Text.Basic

/-!
# Folders and files

The part of a disk that a run can see and change, as a value. A run takes place in its work folder.
The folders above it and the topmost folder exist; whatever else lies outside the work folder is
absent until the run makes it. A path is followed from folder to folder, so every folder it names
on the way has to exist. Names and paths are limited in length.
-/

namespace ApiStubs

/-- Where the names of a location start: in the work folder, in a folder some levels above it, or
in the topmost folder. -/
inductive Anchor where
  | work
  | above (levels : Nat)
  | top
  deriving DecidableEq, Repr, Inhabited

/-- The place of a folder or a file: names that lead down from an anchor. -/
structure Location where
  anchor : Anchor
  names : List String
  deriving DecidableEq, Repr, Inhabited

namespace Location

/-- The work folder. -/
def work : Location := ⟨.work, []⟩

/-- The location of something inside a folder. -/
def child (location : Location) (name : String) : Location :=
  { location with names := location.names ++ [name] }

/-- The folder that a location lies in; the topmost folder lies in itself. -/
def parent (location : Location) : Location :=
  match location.names, location.anchor with
  | [], .work => ⟨.above 1, []⟩
  | [], .above levels => ⟨.above (levels + 1), []⟩
  | [], .top => location
  | names, anchor => ⟨anchor, names.dropLast⟩

/-- The location that one component of a path leads to. -/
def follow (location : Location) (component : String) : Location :=
  if component = ".." then location.parent else location.child component

/-- Whether a location lies below a folder, or is the folder itself. -/
def isWithin (location folder : Location) : Bool :=
  location.anchor == folder.anchor && folder.names.isPrefixOf location.names

end Location

namespace Path

/-- The components of a path that lead anywhere. -/
def components (path : String) : List String :=
  (Text.split '/' path).filter fun component => component != "" && component != "."

/-- Whether a path can only lead to a folder, since nothing stands behind its last stroke. -/
def endsInFolder (path : String) : Bool :=
  match (Text.split '/' path).getLast? with
  | some last => last == "" || last == "."
  | none => false

/-- Where a path starts. -/
def start (path : String) : Location :=
  if Text.beginsWith path "/" then ⟨.top, []⟩ else .work

/-- The most bytes that the name of a file or folder can have. -/
def longestName : Nat := 255

/-- The most bytes that a path can have. -/
def longestPath : Nat := 4095

/-- Refuse a path that cannot be followed at all. -/
def check (path : String) : Outcome Unit :=
  if path.toList.contains '\x00' then .error .unusableValue
  else if longestPath < path.utf8ByteSize then .error .nameTooLong
  else .ok ()

/-- The path of a file in a folder; a path that starts at the topmost folder stands for itself. -/
def join (folder file : String) : String :=
  if Text.beginsWith file "/" then file
  else if folder = "" || Text.endsWith folder "/" then folder ++ file
  else folder ++ "/" ++ file

end Path

/-- The folders that were made and the files with their contents. -/
structure Disk where
  folders : List Location := []
  files : List (Location × String) := []
  deriving Repr, Inhabited

namespace Disk

/-- Whether a folder exists at a location. -/
def isFolder (disk : Disk) (location : Location) : Bool :=
  location.names.isEmpty || disk.folders.contains location

/-- The content of the file at a location. -/
def contentAt? (disk : Disk) (location : Location) : Option String :=
  disk.files.lookup location

/-- Whether a file exists at a location. -/
def isFile (disk : Disk) (location : Location) : Bool :=
  (disk.contentAt? location).isSome

/-- Write the content of the file at a location. -/
def put (disk : Disk) (location : Location) (content : String) : Disk :=
  { disk with
    files := disk.files.filter (fun file => file.1 != location) ++ [(location, content)] }

/-- Make a folder at a location unless there is one. -/
def addFolder (disk : Disk) (location : Location) : Disk :=
  if disk.isFolder location then disk else { disk with folders := disk.folders ++ [location] }

/-- Remove everything at and below a location. -/
def removeWithin (disk : Disk) (folder : Location) : Disk :=
  { folders := disk.folders.filter fun location => !location.isWithin folder
    files := disk.files.filter fun file => !file.1.isWithin folder }

/-- The folder at a location, or the fault that there is none. -/
def enter (disk : Disk) (location : Location) : Outcome Location :=
  if disk.isFolder location then .ok location
  else if disk.isFile location then .error .fileInPlaceOfFolder
  else .error .missingFile

/-- What one component of a path leads to from a folder. -/
def step (disk : Disk) (location : Location) (component : String) : Outcome Location := do
  let folder ← disk.enter location
  if Path.longestName < component.utf8ByteSize then throw .nameTooLong
  return folder.follow component

/-- The location that components lead to from a folder. All of them but the last lead through
folders. -/
def followAll (disk : Disk) (location : Location) (components : List String) : Outcome Location :=
  components.foldlM disk.step location

/-- The location that a path leads to. -/
def locate (disk : Disk) (path : String) : Outcome Location := do
  Path.check path
  disk.followAll (Path.start path) (Path.components path)

/-- The location of the file that a path leads to, which is not a folder. -/
def locateFile (disk : Disk) (path : String) : Outcome Location := do
  if path = "" then throw .missingFile
  let location ← disk.locate path
  if Path.endsInFolder path then discard (disk.enter location)
  if disk.isFolder location then throw .folderInPlaceOfFile
  return location

/-- The content of the file that a path leads to. -/
def readFile (disk : Disk) (path : String) : Outcome String := do
  match disk.contentAt? (← disk.locateFile path) with
  | some content => return content
  | none => throw .missingFile

/-- Write the file that a path leads to. Every character of a text can be encoded, so nothing fails
once the file is found. -/
def writeFile (disk : Disk) (path content : String) : Outcome Disk := do
  return disk.put (← disk.locateFile path) content

/-- Make the folder at a location. -/
def createAt (disk : Disk) (location : Location) : Outcome Disk :=
  if disk.isFile location then .error .fileInTheWay else .ok (disk.addFolder location)

/-- Make the folder that components lead to. -/
def create (disk : Disk) (start : Location) (components : List String) : Outcome Disk := do
  disk.createAt (← disk.followAll start components)

/-- Make the folder that components, the last one first, lead to; when folders on the way are
missing, those are made before it. What was made before a fault stays. -/
def createAll (disk : Disk) (start : Location) : List String → Disk × Option Fault
  | [] => (disk, none)
  | last :: above =>
      match disk.create start (last :: above).reverse with
      | .ok made => (made, none)
      | .error .missingFile =>
          let (disk, fault?) := createAll disk start above
          match fault? with
          | some fault => (disk, some fault)
          | none =>
              match disk.create start (last :: above).reverse with
              | .ok made => (made, none)
              | .error fault => (disk, some fault)
      | .error fault => (disk, some fault)

/-- Make the folder that a path leads to and those on the way. -/
def makeFolders (disk : Disk) (path : String) : Disk × Option Fault :=
  match Path.check path with
  | .error fault => (disk, some fault)
  | .ok () => disk.createAll (Path.start path) (Path.components path).reverse

/-- Remove the folder that a path leads to and everything in it, if there is one. The folder in
which the run takes place loses its content but cannot be removed itself. -/
def removeFolder (disk : Disk) (path : String) : Disk × Option Fault :=
  match disk.locate path with
  | .error .nameTooLong => (disk, some .nameTooLong)
  | .error _ => (disk, none)
  | .ok location =>
      if location.names.isEmpty then
        (if location.anchor = .work then disk.removeWithin location else disk, some .busyFolder)
      else if disk.isFolder location then (disk.removeWithin location, none)
      else if disk.isFile location then (disk, some .fileInPlaceOfFolder)
      else (disk, none)

/-- The folders below the work folder, as paths in ascending order. -/
def folderPaths (disk : Disk) : List String :=
  ((disk.folders.filter fun location => location.anchor == .work).map fun location =>
    Text.join "/" location.names).mergeSort fun left right => decide (left ≤ right)

/-- The files below the work folder, by their paths. -/
def filePaths (disk : Disk) : Table String :=
  (disk.files.filter fun file => file.1.anchor == .work).map fun file =>
    (Text.join "/" file.1.names, file.2)

/-- What was written last is read back. -/
@[simp] theorem contentAt?_put_self (disk : Disk) (location : Location) (content : String) :
    (disk.put location content).contentAt? location = some content := by
  have absent : (disk.files.filter fun file => file.1 != location).lookup location = none := by
    rw [List.lookup_eq_none_iff]
    intro file member
    have differs : file.1 ≠ location := by simpa using (List.mem_filter.1 member).2
    exact bne_iff_ne.2 differs.symm
  simp [put, contentAt?, List.lookup_append, absent]

end Disk

end ApiStubs
