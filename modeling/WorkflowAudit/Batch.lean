import WorkflowAudit.Extraction
import WorkflowAudit.Report

/-! # Batches

Goes through collected workflow texts, repository by repository, and stores a report of each that
has none yet.
-/

namespace WorkflowAudit.Batch

/-- The collection of repositories with their workflow texts. -/
def sources : String := "git-reactions.workflows"

/-- The collection that says which repositories are done. -/
def results : String := "ghast.results"

/-- The first documents of a batch: all for zero, and as many as the size of the number
otherwise. -/
def limited (count : Int) (documents : List Value) : List Value :=
  if count = 0 then documents else documents.take count.natAbs

/-- The number of documents that a setting asks for. -/
def countOf : Value → Except Failure Int
  | .int n => pure n
  | .bool b => pure (if b then 1 else 0)
  | v => throw (.notACount v.typeName)

/-- Extracts the workflows of a repository, by file name, in order. -/
def extractAll (items : List Value) : Audit (List (Value × WorkflowRecord)) :=
  items.mapM fun item => do
    let name ← Audit.check (item.itemNamed "name")
    let text ← Audit.check (item.itemNamed "yaml")
    return (name, ← Extraction.workflow text)

/-- Groups the extracted workflows that have jobs by file name. -/
def grouped (records : List (Value × WorkflowRecord)) :
    Except Failure (List (Value × List WorkflowRecord)) :=
  records.foldlM (fun groups (name, record) =>
    if record.jobs.isNone then pure groups
    else do
      name.checkKey
      return Entries.insert name ((Entries.lookup? name groups).getD [] ++ [record]) groups) []

/-- Groups of workflows as a value. -/
def groupsToValue (groups : List (Value × List WorkflowRecord)) : Value :=
  .map .plain (groups.map fun (name, records) =>
    (name, .plainList (records.map WorkflowRecord.toValue)))

/-- Stores the report of a repository, unless it is done already. -/
def auditDocument (document : Value) : Audit Unit := do
  let id ← Audit.check (document.field "_id")
  match ← Audit.findOne results "wfID" id with
  | some _ => Audit.say "Already analyzed".toList
  | none =>
    let repository ← Audit.check (document.field "name")
    let items ← Audit.check (do (← document.field "workflows").items)
    let groups ← Audit.check (grouped (← extractAll items))
    let _ ← Report.store (groupsToValue groups) id repository

/-- Audits a batch, as the settings say. -/
def run (settings : Entries) : Audit Unit := do
  let count ← Audit.check (Report.setting "count" settings)
  let documents := (← get).store.documents sources
  let count := if count.equal (.int 0) then .int documents.length else count
  Audit.say ("Collecting ".toList ++ (← Audit.check count.shown) ++ " workflows...".toList)
  let chosen := limited (← Audit.check (countOf count)) documents
  chosen.forM auditDocument

end WorkflowAudit.Batch
