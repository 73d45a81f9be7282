import ApiStubs.Settings
import ApiStubs.Json.Reader
import ApiStubs.Pattern.Brace
import ApiStubs.Run
import ApiStubs.Value.Access
import ApiStubs.Value.Display

/-!
# Releases

What a run fetches: the label of the current version, and the reference bundle of a version, which
is an archive of documents. How requests are answered is given to the run.
-/

namespace ApiStubs

/-- What a request brings. -/
inductive Body where
  /-- A text that is no archive. -/
  | text (content : String)
  /-- An archive with its members in order, each a name and its bytes. -/
  | archive (members : List (String × ByteArray))

/-- The answer to a request. -/
structure Response where
  status : Nat := 200
  body : Body

/-- How the requests of a run are answered, by their addresses. -/
abbrev Web := String → Response

namespace Release

/-- The address of the reference bundle of a version. -/
def bundleAddress (settings : Settings) (version : String) : Outcome String :=
  Pattern.Brace.fill [("version", version)] settings.bundleAddress

/-- Request an address. A status of refusal ends the run. -/
def request (web : Web) (url : String) : Run Body := do
  Run.print s!"GET {url}"
  let response := web url
  if 400 ≤ response.status ∧ response.status < 600 then throw (.refused response.status url)
  return response.body

/-- The label of the current version. -/
def currentVersion (web : Web) (settings : Settings) : Run Value := do
  match ← request web settings.versionAddress with
  | .text content => Run.ofOutcome ((Json.read content).bind fun info => info.require "version")
  | .archive _ => throw .malformedDocument

/-- The name that an archive keeps of a member: a null character ends it. -/
def keptName (name : String) : String :=
  String.ofList (name.toList.takeWhile fun char => char != '\x00')

/-- The names of the documents among the members of an archive, in ascending order. -/
def documentNames (members : List (String × ByteArray)) : List String :=
  ((members.map Prod.fst).filter fun name => Text.endsWith name ".json").mergeSort
    fun left right => decide (left ≤ right)

/-- The content of a member; of several with one name the last one counts. -/
def memberContent (members : List (String × ByteArray)) (name : String) : ByteArray :=
  (members.reverse.lookup name).getD ByteArray.empty

/-- The documents of an archive, in ascending order of their names. -/
def documents (members : List (String × ByteArray)) : Outcome (List (String × String)) :=
  (documentNames members).mapM fun name =>
    match String.fromUTF8? (memberContent members name) with
    | some text => .ok (name, text)
    | none => .error .undecodableText

/-- The documents of the reference bundle of a version. -/
def referenceDocuments (web : Web) (settings : Settings) (version : String) :
    Run (List (String × String)) := do
  let url ← Run.ofOutcome (bundleAddress settings version)
  Run.print s!"-- Fetching {url}"
  match ← request web url with
  | .archive members =>
      Run.ofOutcome (documents (members.map fun member => (keptName member.1, member.2)))
  | .text _ => throw .notAnArchive

end Release

end ApiStubs
