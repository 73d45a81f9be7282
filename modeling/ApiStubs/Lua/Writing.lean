import ApiStubs.Lua.File
import ApiStubs.Run

/-!
# Writing the Lua files

One file in the stub folder for every module that declares something, named after its namespace.
-/

namespace ApiStubs.Lua

/-- The text of a module's file; a module without one is announced. -/
def renderModule (writer : StubWriter) (version : String) (module : Value) :
    Run (Option String) := do
  let text? ← Run.ofOutcome (moduleText? writer version module)
  if text?.isNone then
    Run.print (skipNotice (← Run.ofOutcome (module.require "namespace")))
  return text?

/-- The path of the file of a namespace. -/
def filePath (writer : StubWriter) (space : String) : Outcome String := do
  return Path.join (← writer.settings.stubFolder.asText) (space ++ ".lua")

/-- Write the file of a module, and record its path under the namespace. -/
def writeModule (writer : StubWriter) (version : String) (written : Table String)
    (module : Value) : Run (Table String) := do
  match ← renderModule writer version module with
  | none => return written
  | some text =>
      let space ← Run.ofOutcome ((module.require "namespace").bind Value.asText)
      let path ← Run.ofOutcome (filePath writer space)
      Run.save path text
      return written.set space path

/-- Write the files of modules; the result holds their paths by namespace. -/
def writeFiles (writer : StubWriter) (version : String) (modules : List Value) :
    Run (Table String) := do
  Run.print "-- Annotations Generation"
  let written ← modules.foldlM (writeModule writer version) []
  Run.print "-- Annotations Generated Successfully!\n"
  return written

end ApiStubs.Lua
