import WorkflowAudit.Batch
import WorkflowAudit.Bundle
import WorkflowAudit.Code.Statistics

/-! # Operations

The requests that can be made of an audit, each with its arguments, and what each of them does in a
session.  Statements about any course of events are statements about lists of operations.
-/

namespace WorkflowAudit

/-- A request. -/
inductive Operation where
  | nextToken
  | tags (repository : Value)
  | release (client : Client) (action : Value)
  | limit (client : Client)
  | awaitLimit (client : Client)
  | isUpToDate (use : Value)
  | extractWorkflow (text : Value)
  | extractJobs (jobs workflowCondition : Value)
  | extractSteps (steps jobCondition workflowCondition : Value)
  | flaggedLines (step workflowCondition jobCondition : Value)
  | reportPermissions (named : Value)
  | reportSecrets (job step : Value)
  | reviewSteps (named : Value)
  | linesWith (path needle : Value)
  | separate (text : Value)
  | readBundle
  | upToDateCounts (workflow : Value)
  | actionUses (workflow : Value)
  | flaggedRuns (workflow : Value)
  | usesOfAll (workflows : Value)
  | permissions (workflow : Value)
  | writeReport (settings : Entries)
  | storeReport (files id repository : Value)
  | runBatch (settings : Entries)
  | say (message : Value)
  | scanCode (code : Value)
  | scanFile (path : Value)
  | scanFileImports (path : Value)

namespace Operation

/-- The value of a task that gives none. -/
def nothing (task : Audit Unit) : Audit Value := do
  task
  return .null

/-- What an operation does in a session, and the value it gives. -/
def run : Operation → Audit Value
  | .nextToken => do return .text (← Audit.nextToken)
  | .tags repository => Release.tags repository
  | .release client action => Release.latest client action
  | .limit client => do
    let (remaining, reset) ← Release.limit client
    return .plainList [remaining, reset]
  | .awaitLimit client => nothing (Release.awaitLimit client)
  | .isUpToDate use => do return .bool (← Release.isUpToDate use)
  | .extractWorkflow text => do return (← Extraction.workflow text).toValue
  | .extractJobs jobs workflowCondition => do
    return jobsToValue (← Extraction.jobs jobs workflowCondition)
  | .extractSteps steps jobCondition workflowCondition => do
    let records ← Extraction.steps steps jobCondition workflowCondition
    return .plainList (records.map StepRecord.toValue)
  | .flaggedLines step workflowCondition jobCondition => do
    let lines ← Audit.check (Script.flagged step workflowCondition jobCondition)
    return .plainList (lines.map Script.FlaggedLine.toValue)
  | .reportPermissions named => nothing (Findings.reportPermissions named)
  | .reportSecrets job step => nothing (Findings.reportSecrets job step)
  | .reviewSteps named => nothing (Audit.check (Findings.reviewSteps named))
  | .linesWith path needle => do
    return .plainList ((← Bundle.linesWith path needle).map fun n => .int (Int.ofNat n))
  | .separate text => do
    let pairs ← Bundle.separate text
    return .plainList (pairs.map fun (first, next) => .plainList [.int first, .int next])
  | .readBundle => do
    let _ ← Bundle.readDefault
    return .null
  | .upToDateCounts workflow => do
    let (current, outdated) ← Audit.check (Findings.upToDateCounts workflow)
    return .plainList [.int current, .int outdated]
  | .actionUses workflow => do
    let uses ← Audit.check (Findings.actionUses workflow)
    return .plainList (uses.map Findings.ActionUse.toValue)
  | .flaggedRuns workflow => do return .plainList (← Audit.check (Findings.flaggedRuns workflow))
  | .usesOfAll workflows => do return .plainList (← Audit.check (Findings.usesOfAll workflows))
  | .permissions workflow => do return (← Audit.check (Findings.permissions workflow)).toValue
  | .writeReport settings => nothing (Report.write settings)
  | .storeReport files id repository => Report.store files id repository
  | .runBatch settings => nothing (Batch.run settings)
  | .say message => nothing do Audit.say (← Audit.check message.shown)
  | .scanCode code => nothing (Code.Statistics.reportCode code)
  | .scanFile path => nothing (Code.Statistics.reportFile path)
  | .scanFileImports path => nothing (Code.Statistics.reportFileImports path)

end Operation

end WorkflowAudit
