import ApiStubs.Value

/-!
# Faults

The causes that stop a run. A fault carries what is needed to name it; `Fault.message` is the text
for those that have one.
-/

namespace ApiStubs

/-- Why a run stops. -/
inductive Fault where
  /-- A value is used as something it is not. -/
  | wrongShape
  /-- A record lacks a key that is needed. -/
  | missingKey (key : Value)
  /-- A value of the right shape has a content that cannot be used. -/
  | unusableValue
  /-- An index or a numbered place leads to nothing. -/
  | missingPlace
  /-- A number is too large for what it is used as. -/
  | tooLarge
  /-- A text is no document. -/
  | malformedDocument
  /-- The bytes of an archive member are no text. -/
  | undecodableText
  /-- What was fetched is no archive. -/
  | notAnArchive
  /-- A file or the folder it belongs to does not exist. -/
  | missingFile
  /-- A name or a path is longer than the disk allows. -/
  | nameTooLong
  /-- A folder stands where a file is needed. -/
  | folderInPlaceOfFile
  /-- A file stands where a folder is needed. -/
  | fileInPlaceOfFolder
  /-- A file stands where a folder is to be created. -/
  | fileInTheWay
  /-- The folder in which the run takes place cannot be removed. -/
  | busyFolder
  /-- A request was answered by a status of refusal. -/
  | refused (status : Nat) (url : String)
  /-- A class has no fields to declare. -/
  | classWithoutFields (name : String)
  /-- The command line has too many arguments. -/
  | tooManyArguments
  deriving Repr, Inhabited

namespace Fault

/-- The reason phrase of a status of refusal. -/
def reason : Nat → String
  | 400 => "Bad Request"
  | 401 => "Unauthorized"
  | 403 => "Forbidden"
  | 404 => "Not Found"
  | 405 => "Method Not Allowed"
  | 408 => "Request Timeout"
  | 410 => "Gone"
  | 418 => "I'm a Teapot"
  | 429 => "Too Many Requests"
  | 500 => "Internal Server Error"
  | 501 => "Not Implemented"
  | 502 => "Bad Gateway"
  | 503 => "Service Unavailable"
  | 504 => "Gateway Timeout"
  | _ => ""

/-- The text of a fault that has one: the missing key itself, or a sentence. -/
def message : Fault → Option Value
  | .missingKey key => some key
  | .refused status url =>
      let side := if status < 500 then "Client" else "Server"
      some (.text s!"{status} {side} Error: {reason status} for url: {url}")
  | .classWithoutFields name => some (.text s!"Class {name} has no fields")
  | .tooManyArguments =>
      some (.text "Usage: python -m defold_annotations [defold version] [corrections.json]")
  | _ => none

end Fault

/-- The result of a computation that a fault can stop. -/
abbrev Outcome := Except Fault

end ApiStubs
