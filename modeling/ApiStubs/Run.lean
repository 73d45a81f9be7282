import ApiStubs.Disk

/-!
# Runs

A run reads and changes a workspace: the disk, and the lines that have been printed. A fault ends
it; what was written and printed before stays.
-/

namespace ApiStubs

/-- What a run can see and change. -/
structure Workspace where
  disk : Disk := {}
  /-- The texts printed so far; each ends a line. -/
  printed : List String := []
  deriving Inhabited

/-- A computation in a workspace that a fault can end. -/
abbrev Run := ExceptT Fault (StateM Workspace)

namespace Run

variable {α : Type}

/-- The result of a run and the workspace after it. -/
def perform (action : Run α) (workspace : Workspace) : Outcome α × Workspace :=
  StateT.run (ExceptT.run action) workspace

/-- The outcome of a computation without effects. -/
def ofOutcome (outcome : Outcome α) : Run α :=
  ExceptT.mk (pure outcome)

/-- Print a text and end the line. -/
def print (text : String) : Run Unit :=
  modify fun workspace => { workspace with printed := workspace.printed ++ [text] }

/-- Write a file. -/
def save (path content : String) : Run Unit := do
  let disk ← ofOutcome ((← get).disk.writeFile path content)
  modify fun workspace => { workspace with disk }

/-- Read a file. -/
def readFile (path : String) : Run String := do
  ofOutcome ((← get).disk.readFile path)

/-- Change the disk; the change stays when there is a fault. -/
def changeDisk (change : Disk → Disk × Option Fault) : Run Unit := do
  let (disk, fault?) := change (← get).disk
  modify fun workspace => { workspace with disk }
  match fault? with
  | some fault => throw fault
  | none => return ()

/-- Make a folder and those on the way to it. -/
def makeFolders (path : String) : Run Unit :=
  changeDisk fun disk => disk.makeFolders path

/-- Remove a folder and everything in it. -/
def removeFolder (path : String) : Run Unit :=
  changeDisk fun disk => disk.removeFolder path

end Run

/-- Everything printed, as one text. -/
def Workspace.output (workspace : Workspace) : String :=
  workspace.printed.foldl (fun text line => text ++ line ++ "\n") ""

end ApiStubs
