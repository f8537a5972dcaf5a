import WorkflowAudit.Script
import WorkflowAudit.Session.Basic

/-! # Findings

What an extracted workflow says about its steps and jobs: the actions it uses and whether they are
up to date, the flagged lines of its scripts, its permissions.  An extracted workflow comes as a
value, so each question can fail; the failure is that of the first job or step, in order, that does
not have the shape needed.
-/

namespace WorkflowAudit.Findings

/-- Goes through the steps of a workflow, job by job, and collects. -/
def foldSteps {α : Type} (visit : α → (job step : Value) → Except Failure α) (start : α)
    (workflow : Value) : Except Failure α := do
  let jobs ← workflow.itemNamed "jobs"
  (← jobs.indexed).foldlM (fun found job => do
    let steps ← (← job.2).itemNamed "steps"
    (← steps.items).foldlM (fun found step => visit found job.1 step) found) start

/-! ## Actions -/

/-- A use of an action whose state is known. -/
structure ActionUse where
  job : Value
  uses : Value
  upToDate : Value

/-- A use of an action as a value. -/
def ActionUse.toValue (use : ActionUse) : Value :=
  .plainList [use.job, use.uses, use.upToDate]

/-- The name of the field that says whether an action is up to date. -/
def upToDateField : String := "TP Actions Up-to-date"

/-- The uses of actions whose state is known. -/
def actionUses : Value → Except Failure (List ActionUse) :=
  foldSteps (fun found job step => do
    let security ← step.field "security"
    if security.isTruthy then
      let flag ← security.field upToDateField
      if flag.isNull then return found
      else return found ++ [⟨job, ← step.field "uses", flag⟩]
    else return found) []

/-- How many uses of actions are up to date, and how many are not. -/
def upToDateCounts : Value → Except Failure (Nat × Nat) :=
  foldSteps (fun (current, outdated) _ step => do
    let security ← step.field "security"
    if security.isTruthy then
      let flag ← security.field upToDateField
      if flag.isNull then return (current, outdated)
      else if flag.isTruthy then return (current + 1, outdated)
      else return (current, outdated + 1)
    else return (current, outdated)) (0, 0)

/-- What the steps of some workflows use, null for a step that uses no action. -/
def usesOfAll (workflows : Value) : Except Failure (List Value) := do
  (← workflows.items).foldlM (fun found workflow =>
    foldSteps (fun found _ step => do return found ++ [← step.field "uses"]) found workflow) []

/-! ## Scripts -/

/-- The flagged lines of each step that has some. -/
def flaggedRuns : Value → Except Failure (List Value) :=
  foldSteps (fun found _ step => do
    let runs ← (← step.field "security").field "runs"
    if runs.isTruthy then return found ++ [runs] else return found) []

/-- Says of each part of the script of a step that refers to a secret where it is.  The parts of a
script are its characters. -/
def reportSecrets (job step : Value) : Audit Unit := do
  let script ← Audit.check (step.itemNamed "run")
  if script.isTruthy then
    for part in ← Audit.check script.items do
      match part with
      | .text s =>
        if Script.mentionsSecret s.toList then
          let job ← Audit.check job.shown
          let name ← Audit.check (do (← step.itemNamed "name").shown)
          Audit.say ("Secret appears at job ".toList ++ job ++ " @ step ".toList ++ name)
      | other => throw (.notSearchable other.typeName)

/-- Goes through the steps of a named workflow.  The analysis of a step is asked with four arguments
where it takes three, so a workflow with a step is refused. -/
def reviewSteps (named : Value) : Except Failure Unit := do
  let (_, workflow) ← named.pair
  let jobs ← workflow.itemNamed "jobs"
  for job in ← jobs.entriesFor "keys" do
    for _ in ← (← job.2.itemNamed "steps").items do
      let _ ← workflow.itemNamed "conditional"
      let _ ← job.2.itemNamed "conditional"
      throw (.argumentCount "run_analyzer" 3 4)

/-! ## Permissions -/

/-- The permissions of a workflow and of its jobs. -/
structure Permissions where
  workflow : Value
  jobs : Entries

/-- Permissions as a value. -/
def Permissions.toValue (permissions : Permissions) : Value :=
  .record [("wf", permissions.workflow), ("jobs", .map .plain permissions.jobs)]

/-- The permissions of a workflow and of its jobs. -/
def permissions (workflow : Value) : Except Failure Permissions := do
  let own ← workflow.field "permissions"
  let jobs ← workflow.itemNamed "jobs"
  let found ← (← jobs.indexed).mapM fun job => do return (job.1, ← (← job.2).field "permissions")
  return ⟨own, found⟩

/-- Says which permissions a named workflow and its jobs have. -/
def reportPermissions (named : Value) : Audit Unit := do
  let (_, workflow) ← Audit.check named.pair
  let own ← Audit.check (workflow.itemNamed "permissions")
  if own.isTruthy then Audit.say ("Workflow has permissions: ".toList ++ (← Audit.check own.shown))
  let jobs ← Audit.check (workflow.itemNamed "jobs")
  for job in ← Audit.check (jobs.entriesFor "keys") do
    let granted ← Audit.check (job.2.itemNamed "permissions")
    if granted.isTruthy then
      let id ← Audit.check job.1.shown
      let granted ← Audit.check granted.shown
      Audit.say ("Job ".toList ++ id ++ " has permissions: ".toList ++ granted)

end WorkflowAudit.Findings
