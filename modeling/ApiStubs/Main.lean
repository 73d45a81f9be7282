import ApiStubs.Generation
import ApiStubs.Json.Writer

/-!
# The command line

The arguments are a version and the path of a corrections file; both can be missing. Everything else
that a run depends on comes as one document on standard input, and everything that it changes goes
to standard output:

- the field `answers` of the input says by address how requests are answered, each with a `status`
  and either a `text` or the `members` of an archive,
- the field `files` holds the files of the work folder by their paths, and
- the output has the printed lines first and then the work folder as one document.
-/

namespace ApiStubs.CommandLine

/-- The fields of a record under a key; none when there is no such record. -/
def fieldsUnder (value : Value) (key : String) : Table Value :=
  match value.field? key with
  | some (.record fields) => fields
  | _ => []

/-- The answer that a record describes. -/
def responseOf (description : Value) : Response where
  status := ((description.field? "status").bind Value.whole?).elim 200 Int.toNat
  body :=
    match (description.field? "text").bind Value.text? with
    | some content => .text content
    | none => .archive ((fieldsUnder description "members").map fun member =>
        (member.1, member.2.display.toUTF8))

/-- How requests are answered; an address without an answer is not found. -/
def webOf (input : Value) : Web := fun address =>
  match (fieldsUnder input "answers").get? address with
  | some description => responseOf description
  | none => { status := 404, body := .text "" }

/-- Put a file and the folders on the way to it into the work folder. -/
def placeFile (file : String × Value) : Run Unit := do
  Run.makeFolders (Text.join "/" (Path.components file.1).dropLast)
  Run.save file.1 file.2.display

/-- The run that an input and the arguments describe. -/
def runOf (input : Value) (arguments : List String) : Run Unit := do
  (fieldsUnder input "files").forM placeFile
  Generation.generate (webOf input) arguments

/-- The work folder as a value. -/
def diskValue (disk : Disk) : Value :=
  .record [("folders", .ofTexts disk.folderPaths),
    ("files", .record (disk.filePaths.mapValues .text))]

/-- What is reported of a fault. -/
def report (fault : Fault) : String :=
  match fault.message with
  | some message => message.display
  | none => "the run was stopped by its input"

end ApiStubs.CommandLine

/-- Read the input, run, and write what the run has printed and left on the disk. The exit code
tells whether a fault ended the run. -/
def main (arguments : List String) : IO UInt32 := do
  let input := (ApiStubs.Json.read? (← (← IO.getStdin).readToEnd)).getD .null
  let (outcome, workspace) := (ApiStubs.CommandLine.runOf input arguments).perform {}
  IO.print workspace.output
  IO.println (ApiStubs.Json.write (ApiStubs.CommandLine.diskValue workspace.disk))
  match outcome with
  | .ok () => return 0
  | .error fault =>
      IO.eprintln (ApiStubs.CommandLine.report fault)
      return 1
