import ApiStubs.Lua.Writing
import ApiStubs.Reference.Document
import ApiStubs.Reference.KnownModule
import ApiStubs.Release
import ApiStubs.Settings.Correction
import ApiStubs.Teal.Writing

/-!
# The whole run

From the arguments of the command line to the files in the stub folder. Everything that can be found
wrong with the arguments, the corrections, the answers and the documents is found before the disk is
changed; then the stub folder is replaced.
-/

namespace ApiStubs.Generation

open ApiStubs.Reference

/-- The settings of a run, amended by a corrections file when one is named. -/
def readSettings (path? : Option String) : Run Settings := do
  let text? ←
    match path? with
    | some path => some <$> Run.readFile path
    | none => pure none
  Run.ofOutcome (Settings.ofCorrections text?)

/-- The label of the version: the one that is given, else the current one. -/
def chooseVersion (web : Web) (settings : Settings) (given? : Option String) : Run String :=
  match given? with
  | some version => return version
  | none => return (← Release.currentVersion web settings).display

/-- The modules of a run: that of the known types, and those of the documents. -/
def collectModules (settings : Settings) (documents : List (String × String)) :
    Outcome (List Value) := do
  let known ← knownModule settings
  match readDocuments (documents.map Prod.snd) with
  | (modules, none) => return known :: modules
  | (_, some fault) => .error fault

/-- Put an empty stub folder in place of the one that is there. -/
def renewFolder (settings : Settings) : Run Unit := do
  let folder ← Run.ofOutcome settings.stubFolder.asText
  Run.removeFolder folder
  Run.makeFolders folder

/-- Write the stubs of modules in both dialects. -/
def writeStubs (settings : Settings) (version : String) (modules : List Value) : Run Unit := do
  let writer ← Run.ofOutcome (StubWriter.ofSettings settings)
  discard (Lua.writeFiles writer version modules)
  discard (Teal.writeFile writer version modules)

/-- The whole run. The arguments are a version and the path of a corrections file, both of which can
be missing. -/
def generate (web : Web) (arguments : List String) : Run Unit := do
  if 2 < arguments.length then throw .tooManyArguments
  let settings ← readSettings arguments[1]?
  let version ← chooseVersion web settings arguments[0]?
  let documents ← Release.referenceDocuments web settings version
  let modules ← Run.ofOutcome (collectModules settings documents)
  renewFolder settings
  writeStubs settings version modules

end ApiStubs.Generation
