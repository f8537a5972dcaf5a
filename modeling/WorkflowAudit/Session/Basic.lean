import WorkflowAudit.Session.Files
import WorkflowAudit.Session.Store
import WorkflowAudit.Value.Access

/-! # Sessions

An audit runs against its surroundings: a document store, a web service whose answers are scripted
in advance, a clock, access tokens and a working directory.  A `Session` holds them, together with a
log of what was done to them.  An `Audit` is a computation in a session that may fail; what it did
before failing stays done.
-/

namespace WorkflowAudit

/-- An answer of the web service. -/
structure Answer where
  /-- The status, for which the protocol has three digits. -/
  status : Int
  body : String

/-- What an operation did, in order. -/
structure Log where
  printed : List Char := []
  /-- The address and the authorization of each request. -/
  requests : List (String × String) := []
  waits : List Value := []
  /-- The collection and the document of each insertion. -/
  inserts : List (String × Value) := []

/-- The credential that stands for none. -/
def noCredential : String := "NO_TOKEN"

/-- Access tokens in the order in which they will be used; there is always one. -/
structure Tokens where
  next : String
  others : List String

namespace Tokens

/-- The tokens in order. -/
def toList (tokens : Tokens) : List String :=
  tokens.next :: tokens.others

/-- The tokens after one was used, which goes to the end of the row. -/
def rotated (tokens : Tokens) : Tokens :=
  match tokens.others with
  | [] => tokens
  | next :: others => ⟨next, others ++ [tokens.next]⟩

/-- The tokens of a credential, which bars separate. -/
def ofCredential (credential : Option String) : Tokens :=
  match (Text.pieces '|' (credential.getD noCredential).toList).map String.ofList with
  | [] => ⟨noCredential, []⟩
  | next :: others => ⟨next, others⟩

@[simp]
theorem toList_rotated (tokens : Tokens) :
    tokens.rotated.toList = tokens.others ++ [tokens.next] := by
  obtain ⟨next, others⟩ := tokens
  cases others <;> simp [rotated, toList]

end Tokens

/-- What is done about waits. -/
inductive Waiting where
  /-- The audit really waits, for as many nanoseconds as a signed number of 64 bits can count. -/
  | asleep
  /-- A wait is noted and nothing else. -/
  | noted
deriving BEq, DecidableEq

namespace Waiting

/-- The greatest number of nanoseconds that can be waited for. -/
def longest : Int := 9223372036854775807

/-- Whether a number of seconds has a number of nanoseconds that can be counted. -/
def isCountable : Value → Bool
  | .int n => -longest - 1 ≤ n * 1000000000 && n * 1000000000 ≤ longest
  | .float x => -9223372036854775808 ≤ x * 1000000000 && x * 1000000000 < 9223372036854775808
  | _ => true

/-- Whether a number is none. -/
def isUndefined : Value → Bool
  | .float x => x.isNaN
  | _ => false

/-- Whether a number is below zero. -/
def isNegative : Value → Bool
  | .int n => n < 0
  | .float x => x < 0
  | _ => false

/-- What is wrong with a wait for a number of seconds. -/
def problem? (waiting : Waiting) (seconds : Value) : Option Failure :=
  if waiting == .asleep && isUndefined seconds then some .undefinedWait
  else if waiting == .asleep && !isCountable seconds then some .overflow
  else if isNegative seconds then some .negativeWait
  else none

end Waiting

/-- The surroundings of an audit. -/
structure Session where
  store : Store := []
  /-- The answers that are left, by the path they are for. -/
  answers : List (String × List Answer) := []
  /-- The time, in seconds. -/
  now : Value := .int 0
  /-- The access tokens as given, joined by bars. -/
  credential : Option String := none
  /-- The address of the source store. -/
  source : Option String := none
  tokens : Tokens := Tokens.ofCredential none
  files : Files := []
  waiting : Waiting := .asleep
  log : Log := {}

/-- A computation in a session. -/
abbrev Audit := ExceptT Failure (StateM Session)

namespace Session

/-- The address of the web service. -/
def service : String := "https://api.github.com"

/-- The first answer left for a path, with the answers left after it. -/
def takeAnswer? (path : String) :
    List (String × List Answer) → Option (Answer × List (String × List Answer))
  | [] => none
  | (name, answers) :: rest =>
    if path == name then
      match answers with
      | [] => none
      | answer :: left => some (answer, (name, left) :: rest)
    else (takeAnswer? path rest).map fun (answer, left) => (answer, (name, answers) :: left)

/-- How many answers are left for a path. -/
def answersLeft (session : Session) (path : String) : Nat :=
  ((session.answers.lookup path).getD []).length

/-- The session with an empty log. -/
def withEmptyLog (session : Session) : Session :=
  { session with log := {} }

end Session

namespace Audit

/-- The result of a task and the session after it. -/
def perform {α : Type} (task : Audit α) (session : Session) : Except Failure α × Session :=
  task.run session

/-- Goes on only when a check of a value succeeds. -/
def check {α : Type} (result : Except Failure α) : Audit α :=
  match result with
  | .ok a => pure a
  | .error failure => throw failure

/-- Notes something in the log. -/
def note (f : Log → Log) : Audit Unit :=
  modify fun session => { session with log := f session.log }

/-- Prints a text. -/
def print (text : List Char) : Audit Unit :=
  note fun log => { log with printed := log.printed ++ text }

/-- Prints a line. -/
def say (line : List Char) : Audit Unit :=
  print (line ++ ['\n'])

/-- Asks the web service for a path; every request is noted, also one that is not answered. -/
def request (path authorization : String) : Audit Answer := do
  note fun log =>
    { log with requests := log.requests ++ [(Session.service ++ path, authorization)] }
  let session ← get
  match Session.takeAnswer? path session.answers with
  | some (answer, left) =>
    set { session with answers := left }
    return answer
  | none => throw .noAnswer

/-- Waits for a number of seconds. -/
def wait (seconds : Value) : Audit Unit := do
  match (← get).waiting.problem? seconds with
  | some failure => throw failure
  | none => note fun log => { log with waits := log.waits ++ [seconds] }

/-- The first document of a collection whose field has a given value. -/
def findOne (collection name : String) (value : Value) : Audit (Option Value) := do
  return (← get).store.findOne? collection name value

/-- Puts a document into a collection. -/
def insert (collection : String) (document : Value) : Audit Unit := do
  modify fun session => { session with store := session.store.insert collection document }
  note fun log => { log with inserts := log.inserts ++ [(collection, document)] }

/-- Takes the next access token, which goes to the end of the row. -/
def nextToken : Audit String := do
  let session ← get
  set { session with tokens := session.tokens.rotated }
  return session.tokens.next

/-- The characters of a text file. -/
def readText (path : String) : Audit (List Char) := do
  check ((← get).files.readText path)

/-- The path that a value gives.  A number would have to be that of an open file, and there are
none. -/
def pathOf : Value → Except Failure String
  | .text path => pure path
  | .int n =>
    if -0x80000000 ≤ n && n < 0 then throw .negativeDescriptor
    else if 0 ≤ n && n < 0x80000000 then throw .system
    else throw (.notAPath "int")
  | .bool _ => throw .system
  | v => throw (.notAPath v.typeName)

/-- The characters of the text file at the path that a value gives. -/
def readTextOf (path : Value) : Audit (List Char) := do
  readText (← check (pathOf path))

/-- The value saved in a file. -/
def readSaved (path : String) : Audit Value := do
  check ((← get).files.readSaved path)

/-- Writes a text file. -/
def writeText (path : String) (text : List Char) : Audit Unit := do
  let files ← check ((← get).files.writeText path text)
  modify fun session => { session with files := files }

/-- The names in a directory, in order. -/
def listing (path : String) : Audit (List String) := do
  check ((← get).files.listing path)

/-- Makes the directories along a path, as far as they are missing. -/
def makeDirectories (path : String) : Audit Unit := do
  let files ← check ((← get).files.makeDirectories path)
  modify fun session => { session with files := files }

end Audit

end WorkflowAudit
