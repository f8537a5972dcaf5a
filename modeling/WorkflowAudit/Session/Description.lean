import WorkflowAudit.Json.Reader
import WorkflowAudit.Json.Writer
import WorkflowAudit.Session.Basic

/-! # Descriptions of sessions

A session can be described by a value: the collections of the store, the scripted answers of the web
service, the time, the credential, the address of the source store and the files.  Everything may be
left out.  In a described session waits are only noted.
-/

namespace WorkflowAudit.Session

/-- The texts and values of a mapping whose keys are texts. -/
def namedEntries : Value → List (String × Value)
  | .map _ entries => entries.filterMap fun (key, value) =>
    match key with
    | .text name => some (name, value)
    | _ => none
  | _ => []

/-- The items of a list. -/
def listed : Value → List Value
  | .list _ items => items
  | _ => []

/-- A part of a description; null when it is left out. -/
def part (name : String) (description : Value) : Value :=
  ((namedEntries description).lookup name).getD .null

/-- A text, when the value is one. -/
def text? : Value → Option String
  | .text s => some s
  | _ => none

/-- A described answer: its body is a text or the JSON text of a value, and its status is 200 unless
it says otherwise. -/
def answerOf (description : Value) : Answer :=
  let fields := namedEntries description
  let status :=
    match fields.lookup "status" with
    | some (.int n) => n
    | _ => 200
  let body :=
    match fields.lookup "json" with
    | some value => String.ofList ((Json.write value).toOption.getD [])
    | none => ((fields.lookup "text").bind text?).getD ""
  ⟨status, body⟩

/-- The components of a described path. -/
def pathOf (name : String) : Path :=
  ((Text.pieces '/' name.toList).map String.ofList).filter fun component =>
    component ≠ "" ∧ component ≠ "."

/-- The bytes that pairs of hexadecimal digits spell. -/
def bytesOfHex : List Char → List UInt8
  | a :: b :: rest =>
    UInt8.ofNat (16 * (Json.hexValue? a).getD 0 + (Json.hexValue? b).getD 0) :: bytesOfHex rest
  | _ => []

/-- A described file: a text, or bytes in hexadecimal digits. -/
def fileOf : Value → File
  | .text s => .bytes (Text.encodeUtf8 s.toList)
  | description => .bytes (bytesOfHex ((text? (part "hex" description)).getD "").toList)

/-- The described files and directories. -/
def filesOf (description : Value) : Files :=
  let directories := (listed (part "directories" description)).filterMap text?
  let written := (namedEntries (part "files" description)).map fun (name, file) =>
    (pathOf name, fileOf file)
  let saved := (namedEntries (part "saved" description)).map fun (name, value) =>
    (pathOf name, File.saved value)
  (directories.map fun name => (pathOf name, File.directory)) ++ written ++ saved

/-- The session that a value describes. -/
def ofValue (description : Value) : Session :=
  let credential := text? (part "credential" description)
  let now := part "now" description
  { store := (namedEntries (part "store" description)).map fun (name, documents) =>
      (name, listed documents)
    answers := (namedEntries (part "answers" description)).map fun (path, answers) =>
      (path, (listed answers).map answerOf)
    now := if now.isNull then .int 0 else now
    credential := credential
    source := text? (part "source" description)
    tokens := Tokens.ofCredential credential
    files := filesOf description
    waiting := .noted }

end WorkflowAudit.Session
