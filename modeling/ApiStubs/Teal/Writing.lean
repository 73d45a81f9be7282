import ApiStubs.Run
import ApiStubs.Teal.File

/-!
# Writing the Teal file

One file in the stub folder for all modules.
-/

namespace ApiStubs.Teal

/-- The name of the file. -/
def fileName : String := "defold.d.tl"

/-- The path of the file. -/
def filePath (writer : StubWriter) : Outcome String := do
  return Path.join (← writer.settings.stubFolder.asText) fileName

/-- Write the file of several modules; the result is its path. -/
def writeFile (writer : StubWriter) (version : String) (modules : List Value) : Run String := do
  Run.print "-- Teal Annotations Generation"
  let path ← Run.ofOutcome (filePath writer)
  let lines ← Run.ofOutcome (renderLines writer version modules)
  Run.save path (Text.join "\n" lines ++ "\n")
  Run.print "-- Teal Annotations Generated Successfully!\n"
  return path

end ApiStubs.Teal
