import WorkflowAudit.Json.Reader
import WorkflowAudit.Session.Basic
import WorkflowAudit.Text.Quoted
import WorkflowAudit.Version

/-! # Releases and tags

What the web service knows about an action or a repository: its newest release and its tags.  Both
are kept in the store once they have been fetched.  A refused request is sent again after the
service has been asked for its limit and, when that is used up, after a wait; the scripted answers
bound the number of attempts.

Two clients ask: the extractor uses the access tokens in turn, the auditor sends the credential as
it is.
-/

namespace WorkflowAudit

/-- Who asks the web service. -/
inductive Client where
  | extractor
  | auditor
deriving BEq, DecidableEq

namespace Release

/-- The authorization that a token gives. -/
def authorization (token : String) : String :=
  "token " ++ token

/-- The credential as it is. -/
def credential : Audit String := do
  return ((← get).credential.getD noCredential)

/-- The token that a client sends with its next request for a release or for tags. -/
def tokenFor : Client → Audit String
  | .extractor => Audit.nextToken
  | .auditor => credential

/-- The path under which the limit of requests is asked for. -/
def limitPath : String := "/rate_limit"

/-- What is taken for the limit when the answer does not tell: nothing left, and an hour to wait. -/
def unknownLimit : Value × Value :=
  (.int 0, .int 3600)

/-- The number of requests left and the time of the next reset, as an answer tells them. -/
def limitOf (body : List Char) : Except Failure (Value × Value) := do
  let answer ← Json.read body
  let resources := (← answer.field? "resources").getD (.map .plain [])
  let core := (← resources.field? "core").getD (.map .plain [])
  let remaining := (← core.field? "remaining").getD (.int 0)
  let reset := (← core.field? "reset").getD (.int 3600)
  return (remaining, reset)

/-- Asks for the number of requests left and the time of the next reset. -/
def limit (client : Client) : Audit (Value × Value) := do
  let token ←
    match client with
    | .extractor => pure "f\x7bTOKEN\x7d"
    | .auditor => credential
  let answer ← Audit.request limitPath (authorization token)
  match limitOf answer.body.toList with
  | .ok found => return found
  | .error _ => return unknownLimit

/-- Whether a number is below zero. -/
def isBelowZero (v : Value) : Except Failure Bool :=
  match v.number? with
  | some (.int n) => pure (n < 0)
  | some (.float x) => pure (x < 0)
  | none => throw (.comparison v.typeName)

/-- The whole seconds of the clock. -/
def wholeSeconds (now : Value) : Except Failure Int :=
  match now.number? with
  | some (.int n) => pure n
  | some (.float x) =>
    match Decimal.Binary.ofFloat x with
    | .notANumber => throw .notFinite
    | .infinite _ => throw .overflow
    | b => pure (b.truncated?.getD 0)
  | none => pure 0

/-- The seconds from now to a reset, and ten more. -/
def delay (reset : Value) (now : Int) : Except Failure Value :=
  match reset.number? with
  | some (.int n) => pure (.int (n - now + 10))
  | some (.float x) =>
    match Decimal.ofInt? now with
    | some now => pure (.float (x - now + 10))
    | none => throw .overflow
  | none => throw (.subtraction reset.typeName)

/-- What a client says before it waits. -/
def announceWait (client : Client) (seconds : Value) : Audit Unit :=
  match client with
  | .extractor => pure ()
  | .auditor => do
    let shown ← Audit.check seconds.shown
    Audit.say ("Github API limit reached, waiting ".toList ++ shown ++ " seconds".toList)

/-- Waits for the next reset when the number of requests left is below zero. -/
def awaitLimit (client : Client) : Audit Unit := do
  let (remaining, reset) ← limit client
  if ← Audit.check (isBelowZero remaining) then
    let now ← Audit.check (wholeSeconds (← get).now)
    let seconds ← Audit.check (delay reset now)
    announceWait client seconds
    Audit.wait seconds

/-- The characters of a value that becomes part of an address. -/
def addressPart : Value → Except Failure String
  | .text s => pure s
  | v => throw (.concatenation v.typeName)

/-- The path of the newest release of an action. -/
def releasePath (action : String) : String :=
  "/repos/" ++ action ++ "/releases/latest"

/-- The path of the tags of a repository. -/
def tagsPath (repository : String) : String :=
  "/repos/" ++ repository ++ "/tags"

/-- The collection of known releases. -/
def releaseCache : String := "ghast.cache"

/-- The collection of known tags. -/
def tagsCache : String := "ghast.repo_cache"

/-- A release with the name of its action put in. -/
def named (release action : Value) : Except Failure Value :=
  match release with
  | .map kind entries => pure (.map kind (Entries.insert (.text "name") action entries))
  | .list _ _ => throw (.badListIndex "str")
  | v => throw (.noAssignment v.typeName)

/-- What a client says before it looks for a release. -/
def announcement (client : Client) (action : Value) : Except Failure (List Char) := do
  match client with
  | .extractor => return "Getting data for the action ".toList ++ (← action.shown)
  | .auditor => return "Getting data for ".toList ++ (← action.shown)

/-- What a client says when it was refused a release. -/
def reportRefusal (client : Client) (answer : Answer) : Audit Unit :=
  match client with
  | .extractor =>
    Audit.say ("Waiting for rate limit... ".toList ++ Text.integerText answer.status ++
      ", ".toList ++ Text.quotedBytes (Text.encodeUtf8 answer.body.toList))
  | .auditor => pure ()

/-- The newest release of an action: from the store, or else from the service in at most `attempts`
requests. -/
def latestWithin (client : Client) (action : Value) : (attempts : Nat) → Audit Value
  | 0 => throw .noAnswer
  | attempts + 1 => do
    Audit.say (← Audit.check (announcement client action))
    match ← Audit.findOne releaseCache "name" action with
    | some release => return release
    | none =>
      let name ← Audit.check (addressPart action)
      let token ← tokenFor client
      let answer ← Audit.request (releasePath name) (authorization token)
      if answer.status = 200 then
        let release ← Audit.check (Json.read answer.body.toList)
        let release ← Audit.check (named release action)
        Audit.insert releaseCache release
        return release
      else
        reportRefusal client answer
        awaitLimit client
        latestWithin client action attempts

/-- The path that a value names, for counting the answers left. -/
def answersFor (session : Session) (path : String → String) : Value → Nat
  | .text s => session.answersLeft (path s)
  | _ => 0

/-- The newest release of an action.  Each attempt but the last uses up one scripted answer, so the
answers left and one more attempt are enough. -/
def latest (client : Client) (action : Value) : Audit Value := do
  latestWithin client action (answersFor (← get) releasePath action + 1)

/-- The tags of a repository: from the store, or else from the service in at most `attempts`
requests. -/
def tagsWithin (repository : Value) : (attempts : Nat) → Audit Value
  | 0 => throw .noAnswer
  | attempts + 1 => do
    Audit.say ("Getting tags for ".toList ++ (← Audit.check repository.shown))
    match ← Audit.findOne tagsCache "repo" repository with
    | some document => Audit.check (document.itemNamed "tags")
    | none =>
      let name ← Audit.check (addressPart repository)
      let token ← Audit.nextToken
      let answer ← Audit.request (tagsPath name) (authorization token)
      if answer.status = 200 then
        let tags ← Audit.check (Json.read answer.body.toList)
        Audit.insert tagsCache (.record [("repo", repository), ("tags", tags)])
        return tags
      else
        Audit.say ("Error getting tags ".toList ++ Text.integerText answer.status ++
          ' ' :: answer.body.toList)
        awaitLimit .extractor
        tagsWithin repository attempts

/-- The tags of a repository. -/
def tags (repository : Value) : Audit Value := do
  tagsWithin repository (answersFor (← get) tagsPath repository + 1)

/-- The reference that a use of an action gives, behind its last `@`, without any `v`. -/
def reference (use : List Char) : List Char :=
  (Text.afterLast '@' use).filter (· ≠ 'v')

/-- Whether a reference follows the main branch. -/
def isMainBranch (reference : List Char) : Bool :=
  reference == "master".toList || reference == "main".toList

/-- Whether a reference is up to date with the newest tag.  Versions of one major number are; other
versions are compared, and are not if they cannot be; texts that are no versions have to be
equal. -/
def isCurrent (reference newest : List Char) : Bool :=
  match Version.coerce? reference, Version.coerce? newest with
  | some used, some known =>
    if known.major = used.major then true
    else used.isComparable && known.isComparable && used.isAtLeast known
  | none, none => newest == reference
  | _, _ => false

/-- Whether the action that a step uses is up to date. -/
def isUpToDate (use : Value) : Audit Bool := do
  let text ← Audit.check (use.splitChars)
  let used := reference text
  if isMainBranch used then return true
  else
    let release ← latest .extractor (.ofChars (Text.beforeFirst '@' text))
    let newest ← Audit.check (do (← release.itemNamed "tag_name").shown)
    return isCurrent used (newest.filter (· ≠ 'v'))

end Release

end WorkflowAudit
