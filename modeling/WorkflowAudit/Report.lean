import WorkflowAudit.Findings
import WorkflowAudit.Json.Writer
import WorkflowAudit.Pattern.Reader
import WorkflowAudit.Release

/-! # Reports

The issues of extracted workflows, by file and by workflow name.  An issue is a flagged line
together with the critical parts of the triggering event, or the secrets, that it mentions; or it is
a label that a job gets: permissions that are declared for the workflow only or not at all, an
action that is out of date, an action that is not pinned to a commit.

A workflow is entered under its name, and a later workflow of the same file with the same name takes
its place.

A reference counts as pinned when, read as a pattern, it matches the beginning of the text that
describes a commit digest (`commitDigest`).
-/

namespace WorkflowAudit

/-- What is wrong with a job. -/
inductive Label where
  | onlyWorkflowDeclaration
  | noDeclaration
  | outOfDate
  | notPinned
deriving BEq, DecidableEq

/-- The short name of a label. -/
def Label.name : Label → String
  | onlyWorkflowDeclaration => "ONLY_WF_DECLARATION"
  | noDeclaration => "NO_DECLARATION"
  | outOfDate => "WF_OOD"
  | notPinned => "NO_PINNING"

/-- The description of a label. -/
def Label.description : Label → String
  | onlyWorkflowDeclaration => "Permissions declaration at workflow level"
  | noDeclaration => "Permissions are not declared in the workflow"
  | outOfDate => "Workflow out of date"
  | notPinned => "Workflow not pinned at commit"

/-- An issue of a workflow. -/
inductive Issue where
  /-- A flagged line and the critical names that it mentions. -/
  | exposure (names : List String) (line : List Char)
  | about (job : Value) (label : Label)

/-- The entry of a workflow: the type and the rank of its last trigger, and its issues. -/
structure WorkflowReport where
  trigger : Value × Value
  issues : List Issue

/-- The workflows of a file, by name. -/
abbrev FileReport := List (Value × WorkflowReport)

/-- The files of a report. -/
abbrev Report := List (Value × FileReport)

/-! ## Reports as values -/

/-- An issue as a value, its label worded as `wording` says. -/
def Issue.toValue (wording : Label → String) : Issue → Value
  | .exposure names line => .plainList [.plainList (names.map .text), .ofChars line]
  | .about job label => .plainList [job, .text (wording label)]

/-- The entry of a workflow as a value. -/
def WorkflowReport.toValue (wording : Label → String) (report : WorkflowReport) : Value :=
  .record [("events", .plainList [report.trigger.1, report.trigger.2]),
    ("issues", .plainList (report.issues.map (Issue.toValue wording)))]

/-- A report as a value. -/
def Report.toValue (wording : Label → String) (report : Report) : Value :=
  .map .plain (report.map fun (file, workflows) =>
    (file, .map .plain (workflows.map fun (name, entry) => (name, entry.toValue wording))))

namespace Report

/-- The critical parts of a triggering event, by name. -/
def criticalContexts : List (String × String) :=
  [("ACTOR", "github.actor"),
   ("PULL_REQUEST_BODY", "github.event.pull_request.body"),
   ("PULL_REQUEST_TITLE", "github.event.pull_request.title"),
   ("ISSUE_TITLE", "github.event.issue.title"),
   ("ISSUE_BODY", "github.event.issue.body"),
   ("ISSUE_COMMENT_BODY", "github.event.issue_comment.body"),
   ("PULL_REQUEST_COMMENT_BODY", "github.event.pull_request_review_comment.body")]

/-- What refers to secrets, by name. -/
def criticalSecrets : List (String × String) :=
  [("SECRET_CDD", "secrets.")]

/-- The names of those that a line mentions. -/
def mentioned (critical : List (String × String)) (line : List Char) : List String :=
  (critical.filter fun (_, content) => Text.occursIn content.toList line).map (·.1)

/-- The text that describes a commit digest. -/
def commitDigest : List Char := "[0-9a-f]\x7b40\x7d".toList

/-! ## Entries -/

/-- Enters a workflow under its name, once for each of its triggers, so that the last one stays. -/
def enter (name : Value) (events : Value) (report : FileReport) : Except Failure FileReport :=
  match events with
  | .map _ _ => do enterOne report (← events.field "type") (← events.field "security_rank")
  | events => do
    (← events.items).foldlM (fun report event => do
      enterOne report (← event.field "type") (← event.field "security_rank")) report
where
  /-- Enters a workflow with one trigger and no issues. -/
  enterOne (report : FileReport) (type rank : Value) : Except Failure FileReport := do
    name.checkKey
    return Entries.insert name ⟨(type, rank), []⟩ report

/-- The entry of a workflow. -/
def entryOf (name : Value) (report : FileReport) : Except Failure WorkflowReport := do
  name.checkKey
  match Entries.lookup? name report with
  | some entry => return entry
  | none => throw (.noKey name)

/-- Adds issues to the entry of a workflow, which must exist when there is one to add. -/
def addIssues (name : Value) (issues : List Issue) (report : FileReport) :
    Except Failure FileReport :=
  if issues.isEmpty then pure report
  else do
    let entry ← entryOf name report
    return Entries.insert name { entry with issues := entry.issues ++ issues } report

/-! ## Issues -/

/-- The issues of the first flagged line. -/
def exposures (runs : List Value) : Except Failure (List Issue) :=
  match runs with
  | [] => pure []
  | run :: _ => do
    let line ← (← (← run.item (.int 0)).itemNamed "line").joined
    return [.exposure (mentioned criticalContexts line) line,
      .exposure (mentioned criticalSecrets line) line]

/-- The label for a job without permissions.  The permissions of the workflow come as text, and
`None` is none. -/
def permissionLabel (permissions : Findings.Permissions) : Label :=
  if permissions.workflow.equal (.text "None") then .noDeclaration else .onlyWorkflowDeclaration

/-- The issues of the jobs without permissions. -/
def permissionIssues (permissions : Findings.Permissions) : List Issue :=
  (permissions.jobs.filter fun (_, granted) => !granted.isTruthy).map fun (job, _) =>
    .about job (permissionLabel permissions)

/-- The digest of the newest tag. -/
def newestDigest (tags : Value) : Except Failure Value := do
  (← (← tags.item (.int 0)).field "commit").field "sha"

/-- The branches of the judgement of a use of an action, in the order in which they are tried. -/
inductive Branch where
  /-- The reference matches. -/
  | matching
  /-- The flag is false and the reference does not match. -/
  | falseNotMatching
  /-- The flag is false and the reference matches. -/
  | falseMatching
  /-- The reference does not match. -/
  | notMatching
  /-- No test succeeds. -/
  | rest

/-- The branch that a reference and a flag lead to.  Each test asks anew whether the reference
matches. -/
def branchOf (reference : List Char) (flag : Value) : Except Failure Branch := do
  if ← Pattern.textMatches reference commitDigest then return .matching
  else if !flag.isTruthy && !(← Pattern.textMatches reference commitDigest) then
    return .falseNotMatching
  else if !flag.isTruthy && (← Pattern.textMatches reference commitDigest) then
    return .falseMatching
  else if !(← Pattern.textMatches reference commitDigest) then return .notMatching
  else return .rest

/-- The labels of a branch, and whether they are announced: a reference that counts as pinned is
compared with the newest tag. -/
def Branch.labels (tags : Value) (reference : List Char) :
    Branch → Except Failure (List Label × Bool)
  | .matching => do
    if (Value.ofChars reference).equal (← newestDigest tags) then return ([], false)
    else return ([.outOfDate], true)
  | .falseNotMatching => return ([.outOfDate, .notPinned], false)
  | .falseMatching => return ([.outOfDate], false)
  | .notMatching => return ([.notPinned], false)
  | .rest => return ([], false)

/-- The labels that a use of an action gives its job, and whether they are announced. -/
def useLabels (tags : Value) (use : Findings.ActionUse) : Except Failure (List Label × Bool) := do
  let reference := Text.afterLast '@' (← use.uses.splitChars)
  (← branchOf reference use.upToDate).labels tags reference

/-- Adds the issues of a use of an action. -/
def addUse (name tags : Value) (report : FileReport) (use : Findings.ActionUse) :
    Audit FileReport := do
  let (labels, announced) ← Audit.check (useLabels tags use)
  if announced then Audit.say "CASE".toList
  Audit.check (addIssues name (labels.map (Issue.about use.job)) report)

/-! ## Workflows, files and reports -/

/-- The report of a file with one more workflow. -/
def addWorkflow (fetchTags : Audit Value) (report : FileReport) (workflow : Value) :
    Audit FileReport := do
  let runs ← Audit.check (Findings.flaggedRuns workflow)
  let uses ← Audit.check (Findings.actionUses workflow)
  let permissions ← Audit.check (Findings.permissions workflow)
  let name ← Audit.check (workflow.field "name")
  let events ← Audit.check (workflow.field "events")
  let report ← Audit.check (enter name events report)
  -- a workflow without triggers has no entry, which shows before its lines are looked at
  if !runs.isEmpty then
    let _ ← Audit.check (entryOf name report)
  let report ← Audit.check (do addIssues name (← exposures runs) report)
  let report ← Audit.check (addIssues name (permissionIssues permissions) report)
  let tags ← fetchTags
  uses.foldlM (addUse name tags) report

/-- The report of a file. -/
def ofFile (fetchTags : Audit Value) (workflows : Value) : Audit FileReport := do
  (← Audit.check workflows.items).foldlM (addWorkflow fetchTags) []

/-- The report of extracted workflows, by file. -/
def build (tagsFor : Value → Audit Value) (files : Value) : Audit Report := do
  (← Audit.check files.items).foldlM (fun report file => do
    Audit.check file.checkKey
    let entries ← Audit.check (files.entriesFor "get")
    let workflows := (Entries.lookup? file entries).getD .null
    return Entries.insert file (← ofFile (tagsFor file) workflows) report) []

/-! ## The stored and the written report -/

/-- The collection of stored reports. -/
def storedReports : String := "ghast.result"

/-- Builds the report of the workflows of a repository and stores it under an identifier. -/
def store (files id repository : Value) : Audit Value := do
  let report ← build (fun _ => Release.tags repository) files
  let content := Report.toValue Label.description report
  Audit.insert storedReports (.record [("wfID", id), ("vulns", content)])
  return content

/-- The token that goes with the requests for a written report; its secret part is withheld. -/
def ownToken : String := "ghp_***"

/-- The tags of a repository, straight from the service, whatever the status of its answer. -/
def fetchTags (repository : Value) : Audit Value := do
  let name ← Audit.check (Release.addressPart repository)
  let answer ← Audit.request (Release.tagsPath name) (Release.authorization ownToken)
  Audit.check (Json.read answer.body.toList)

/-- The place of the saved workflows below a source. -/
def savedWorkflows (source : Value) : Except Failure String := do
  return String.ofList ((← source.shown) ++ "/savedDictWfs.dat".toList)

/-- A setting that must be given. -/
def setting (name : String) (settings : Entries) : Except Failure Value :=
  match Entries.field? name settings with
  | some value => pure value
  | none => throw (.noAttribute "types.SimpleNamespace" name)

/-- Writes the text of a value to a file.  Opening the file empties it, before it is known whether
the value has a text. -/
def writeValue (path : String) (content : Value) : Audit Unit := do
  Audit.writeText path []
  Audit.writeText path (← Audit.check (Json.write content))

/-- Builds the report of saved workflows and writes it to a file, as the settings say. -/
def write (settings : Entries) : Audit Unit := do
  let source ← Audit.check (setting "source" settings)
  let files ← Audit.readSaved (← Audit.check (savedWorkflows source))
  let report ← build fetchTags files
  let destination ← Audit.check (setting "dest" settings)
  writeValue (String.ofList (← Audit.check destination.shown)) (Report.toValue Label.name report)

end Report

end WorkflowAudit
