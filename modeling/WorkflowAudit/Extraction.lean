import WorkflowAudit.Digest
import WorkflowAudit.Release
import WorkflowAudit.Script
import WorkflowAudit.Yaml.Document

/-! # Extraction

A workflow text is reduced to what the audit needs: its name, permissions and condition, its
triggers with the rank of their danger, and its jobs with their steps.  For a step that runs a
script the lines that expose the triggering event are flagged; for a step that uses an action it is
noted whether the action is up to date.

Extraction goes as far as it can.  What was extracted before an obstacle is kept, so a record has
nothing, a name alone, a heading, a heading with triggers, or all three parts.
-/

namespace WorkflowAudit

/-- What was found out about a step. -/
inductive StepSecurity where
  | none
  | upToDate (flag : Bool)
  | flaggedLines (lines : List Script.FlaggedLine)

/-- The script of a step. -/
structure ScriptSummary where
  lineCount : Nat
  digest : List Char

/-- An extracted step. -/
structure StepRecord where
  name : Value
  conditional : Value
  position : Nat
  uses : Value
  security : StepSecurity
  script : Option ScriptSummary

/-- An extracted job. -/
structure JobRecord where
  name : Value
  uses : Value
  conditional : Value
  permissions : Value
  steps : List StepRecord

/-- A trigger of a workflow with the rank of its danger. -/
structure Trigger where
  type : Value
  rank : Nat
  /-- The names of its filters, when it has a mapping of them. -/
  filters : Option (List Value)

/-- The triggers of a workflow: one, given by its name, or a list. -/
inductive Triggers where
  | single (trigger : Trigger)
  | several (triggers : List Trigger)

/-- The parts of a workflow that need no interpretation. -/
structure Heading where
  name : Value
  permissions : List Char
  conditional : Value

/-- An extracted workflow, as far as extraction went. -/
structure WorkflowRecord where
  /-- The name, when it is all that was extracted. -/
  loneName : Option Value := none
  heading : Option Heading := none
  triggers : Option Triggers := none
  jobs : Option (List (Value × JobRecord)) := none

/-! ## Records as values -/

/-- The security finding of a step as a value. -/
def StepSecurity.toValue : StepSecurity → Value
  | .none => .map .plain []
  | .upToDate flag => .record [("TP Actions Up-to-date", .bool flag)]
  | .flaggedLines lines => .record [("runs", .plainList (lines.map Script.FlaggedLine.toValue))]

/-- A step as a value. -/
def StepRecord.toValue (step : StepRecord) : Value :=
  let script :=
    match step.script with
    | none => [("run", Value.int 0)]
    | some summary =>
      [("run", Value.int summary.lineCount), ("run_hash", Value.ofChars summary.digest)]
  .record ([("name", step.name), ("conditional", step.conditional),
    ("position", .int step.position), ("uses", step.uses),
    ("security", step.security.toValue)] ++ script)

/-- A job as a value. -/
def JobRecord.toValue (job : JobRecord) : Value :=
  .record [("name", job.name), ("uses", job.uses), ("conditional", job.conditional),
    ("permissions", job.permissions), ("steps", .plainList (job.steps.map StepRecord.toValue))]

/-- Jobs by their names, as a value. -/
def jobsToValue (jobs : List (Value × JobRecord)) : Value :=
  .map .plain (jobs.map fun (id, job) => (id, job.toValue))

/-- A trigger as a value. -/
def Trigger.toValue (trigger : Trigger) : Value :=
  let filters :=
    match trigger.filters with
    | none => []
    | some names => [("filters", Value.plainList names)]
  .record ([("type", trigger.type), ("security_rank", .int trigger.rank)] ++ filters)

/-- Triggers as a value. -/
def Triggers.toValue : Triggers → Value
  | .single trigger => trigger.toValue
  | .several triggers => .plainList (triggers.map Trigger.toValue)

/-- A workflow as a value. -/
def WorkflowRecord.toValue (record : WorkflowRecord) : Value :=
  let heading :=
    match record.heading with
    | none => (record.loneName.map fun name => ("name", name)).toList
    | some h =>
      [("name", h.name), ("permissions", Value.ofChars h.permissions),
        ("conditional", h.conditional)]
  let triggers := (record.triggers.map fun t => ("events", t.toValue)).toList
  let jobs := (record.jobs.map fun j => ("jobs", jobsToValue j)).toList
  .record (heading ++ triggers ++ jobs)

namespace Extraction

/-- The rank of the danger of each known trigger. -/
def ranks : List (String × Nat) :=
  [("fork", 3), ("issue_comment", 3), ("issues", 3), ("pull_request_comment", 3), ("watch", 3),
   ("pull_request", 2), ("pull_request_target", 2),
   ("pull_request_review", 1), ("pull_request_review_comment", 1), ("push", 1), ("release", 1),
   ("workflow_call", 1), ("workflow_dispatch", 1), ("workflow_run", 1)]

/-- The rank of a trigger. -/
def rank? : Value → Option Nat
  | .text name => ranks.lookup name
  | _ => none

/-! ## Steps and jobs -/

/-- Extracts a step at a position, under the conditions of its job and its workflow. -/
def step (position : Nat) (jobCondition workflowCondition source : Value) : Audit StepRecord := do
  let name ← Audit.check (source.field "name")
  let conditional ← Audit.check (source.field "if")
  let uses ← Audit.check (source.field "uses")
  let script ← Audit.check (source.field "run")
  let security ←
    if uses.isTruthy then StepSecurity.upToDate <$> Release.isUpToDate uses
    else pure StepSecurity.none
  if script.isNull then
    return ⟨name, conditional, position, uses, security, none⟩
  else
    let text ← Audit.check (script.splitChars)
    let encoded := Text.encodeUtf8 (← Audit.check script.encodedChars)
    let summary : ScriptSummary := ⟨(Text.pieces '\n' text).length, Digest.sha256Hex encoded⟩
    let lines ← Audit.check (Script.flagged source workflowCondition jobCondition)
    return ⟨name, conditional, position, uses, .flaggedLines lines, some summary⟩

/-- Extracts steps, the first of which has a given position. -/
def stepsFrom (jobCondition workflowCondition : Value) :
    (position : Nat) → List Value → Audit (List StepRecord)
  | _, [] => return []
  | position, source :: rest => do
    let record ← step position jobCondition workflowCondition source
    return record :: (← stepsFrom jobCondition workflowCondition (position + 1) rest)

/-- Extracts the steps of a job. -/
def steps (sources jobCondition workflowCondition : Value) : Audit (List StepRecord) := do
  stepsFrom jobCondition workflowCondition 1 (← Audit.check sources.items)

/-- Extracts a job. -/
def job (workflowCondition source : Value) : Audit JobRecord := do
  let name ← Audit.check (source.field "name")
  let uses ← Audit.check (source.field "uses")
  let conditional ← Audit.check (source.field "if")
  let permissions ← Audit.check (source.field "permissions")
  let sources ← Audit.check (source.field? "steps")
  let records ← steps (sources.getD (.plainList [])) (.bool conditional.isTruthy) workflowCondition
  return ⟨name, uses, conditional, permissions, records⟩

/-- Extracts jobs by their names. -/
def jobEntries (workflowCondition : Value) : Entries → Audit (List (Value × JobRecord))
  | [] => return []
  | (id, source) :: rest => do
    let record ← job workflowCondition source
    return (id, record) :: (← jobEntries workflowCondition rest)

/-- Extracts the jobs of a workflow. -/
def jobs (sources workflowCondition : Value) : Audit (List (Value × JobRecord)) := do
  jobEntries workflowCondition (← Audit.check (sources.entriesFor "items"))

/-! ## Triggers -/

/-- The triggers of a list of names; `none` when one has no rank. -/
def listedTriggers (names : List Value) : Option (List Trigger) :=
  names.mapM fun name => (rank? name).map fun rank => ⟨name, rank, none⟩

/-- A trigger of a mapping, with the names of its filters when they are a mapping. -/
def mappedTrigger? (name content : Value) : Option Trigger :=
  (rank? name).map fun rank =>
    match content with
    | .map _ filters => ⟨name, rank, some (Entries.keys filters)⟩
    | _ => ⟨name, rank, none⟩

/-- The triggers of a mapping up to the first that has no rank, and whether all have one. -/
def mappedTriggers : Entries → List Trigger × Bool
  | [] => ([], true)
  | (name, content) :: rest =>
    match mappedTrigger? name content with
    | none => ([], false)
    | some trigger =>
      let (triggers, complete) := mappedTriggers rest
      (trigger :: triggers, complete)

/-- The triggers that a workflow names, and whether all of them could be ranked.  A single name or a
list without rank leaves nothing; a mapping leaves the triggers before the first one without
rank. -/
def triggersOf : Value → Option Triggers × Bool
  | .text name =>
    match rank? (.text name) with
    | some rank => (some (.single ⟨.text name, rank, none⟩), true)
    | none => (none, false)
  | .list _ names =>
    match listedTriggers names with
    | some triggers => (some (.several triggers), true)
    | none => (none, false)
  | .map _ entries =>
    let (triggers, complete) := mappedTriggers entries
    (some (.several triggers), complete)
  | _ => (none, false)

/-! ## Workflows -/

/-- The heading of a workflow.  The permissions are kept as text, which they may not have. -/
def headingOf (workflow : Value) : Except Failure Heading := do
  let name ← workflow.field "name"
  let permissions ← (← workflow.field "permissions").represented
  return ⟨name, permissions, ← workflow.field "if"⟩

/-- Extracts a loaded workflow. -/
def ofDocument (workflow : Value) : Audit WorkflowRecord := do
  if workflow.isNull then return {}
  match headingOf workflow, workflow.field? "on" with
  | .ok heading, .ok (some on) =>
    match triggersOf on with
    | (triggers, false) => return { heading := some heading, triggers := triggers }
    | (triggers, true) =>
      let sources := ((workflow.field? "jobs").toOption.join).getD (.map .plain [])
      let found ←
        try
          some <$> jobs sources (.bool heading.conditional.isTruthy)
        catch _ => pure none
      return { heading := some heading, triggers := triggers, jobs := found }
  | .ok heading, _ => return { heading := some heading }
  | .error _, _ => return { loneName := (workflow.field "name").toOption }

/-- Extracts a workflow text.  A text that is not lexed or refers to nothing counts as no document;
every other fault of the text is a failure. -/
def ofText (text : List Char) : Audit WorkflowRecord :=
  match Yaml.load text with
  | .ok workflow => ofDocument workflow
  | .error .lexical | .error .reference => pure {}
  | .error (.failure cause) => throw cause

/-- Extracts a workflow from what should be its text. -/
def workflow : Value → Audit WorkflowRecord
  | .text s => ofText s.toList
  | _ => throw (.document .notText)

end Extraction

end WorkflowAudit
