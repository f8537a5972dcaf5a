import WorkflowAudit.Operation
import WorkflowAudit.Proofs.Changes

/-! # Operations in a row

A session goes through any number of operations, one after the other; an operation that fails leaves
what it did before and does not keep the others from being tried (`Session.after`).

Whatever holds between a session and a later one because of what the lookups, the insertions of
reports and the writing of files do, holds across every operation (`Operation.keeps_run`), and hence
across any row of them (`Session.keeps_after`).  An operation asks the service in the name of one
client only, so it is enough to know what that client does (`Operation.keeps_run_of`).
-/
namespace WorkflowAudit

open Audit

/-- The session after operations in a row. -/
def Session.after (operations : List Operation) (s : Session) : Session :=
  operations.foldl (fun s operation => (operation.run.perform s).2) s

section Keeps

variable {α β : Type} {R : Session → Session → Prop} (hR : Session.Passage R)

include hR

/-! ## Tasks that only read and print -/

theorem Session.Passage.forIn {visit : α → β → Audit (ForInStep β)}
    (hvisit : ∀ a b, (visit a b).Keeps R) (items : List α) (start : β) :
    (ForIn.forIn items start visit).Keeps R := by
  induction items generalizing start with
  | nil => exact hR.pure start
  | cons a items ih =>
    rw [List.forIn_cons]
    refine hR.bind (hvisit a start) fun step => ?_
    cases step with
    | done b => exact hR.pure b
    | yield b => exact ih b

theorem Session.Passage.readText (path : String) : (Audit.readText path).Keeps R :=
  hR.bind hR.get fun _ => hR.check _

theorem Session.Passage.readTextOf (path : Value) : (Audit.readTextOf path).Keeps R :=
  hR.bind (hR.check _) fun path => hR.readText path

theorem Session.Passage.readSaved (path : String) : (Audit.readSaved path).Keeps R :=
  hR.bind hR.get fun _ => hR.check _

theorem Findings.keeps_reportPermissions (named : Value) : (reportPermissions named).Keeps R := by
  unfold reportPermissions
  refine hR.bind (hR.check _) fun (_, workflow) => ?_
  refine hR.bind (hR.check _) fun own => ?_
  -- what is said of the jobs does not depend on what was said of the workflow
  extract_lets jobs
  have hjobs : ∀ u, (jobs u).Keeps R := by
    intro u
    refine hR.bind (hR.check _) fun sources => ?_
    refine hR.bind (hR.check _) fun entries => ?_
    refine hR.bind (hR.forIn (fun job _ => ?_) _ _) fun _ => hR.pure _
    refine hR.bind (hR.check _) fun granted => ?_
    split
    · refine hR.bind (hR.check _) fun id => ?_
      refine hR.bind (hR.check _) fun shown => ?_
      exact hR.bind (hR.say _) fun _ => hR.pure _
    · exact hR.pure _
  split
  · exact hR.bind (hR.check _) fun shown => hR.bind (hR.say _) hjobs
  · exact hjobs ()

theorem Findings.keeps_reportSecrets (job step : Value) : (reportSecrets job step).Keeps R := by
  unfold reportSecrets
  refine hR.bind (hR.check _) fun script => ?_
  split
  · refine hR.bind (hR.check _) fun parts => ?_
    refine hR.bind (hR.forIn (fun part _ => ?_) _ _) fun _ => hR.pure _
    split
    · split
      · refine hR.bind (hR.check _) fun shown => ?_
        refine hR.bind (hR.check _) fun name => ?_
        exact hR.bind (hR.say _) fun _ => hR.pure _
      · exact hR.pure _
    · exact hR.bind (hR.throw _) fun _ => hR.pure _
  · exact hR.pure _

theorem Bundle.keeps_separate (text : Value) : (separate text).Keeps R := by
  unfold separate
  split
  · exact hR.bind (hR.say _) fun _ => hR.pure _
  · exact hR.throw _

theorem Bundle.keeps_linesWith (path needle : Value) : (linesWith path needle).Keeps R := by
  unfold linesWith
  refine hR.bind (hR.readTextOf path) fun text => ?_
  dsimp only
  split
  · exact hR.pure _
  · split
    · exact hR.pure _
    · exact hR.throw _

theorem Code.Statistics.keeps_reportScan (outcome : Code.Statistics × Option Failure) :
    (reportScan outcome).Keeps R := by
  unfold reportScan
  split
  · exact hR.throw _
  · exact hR.bind (hR.check _) fun _ => hR.say _

/-! ## Every operation -/

theorem Report.keeps_writeValue (path : String) (content : Value)
    (hwritten : ∀ s files, R s { s with files := files }) : (writeValue path content).Keeps R := by
  have hwrite : ∀ text, (Audit.writeText path text).Keeps R := fun text =>
    hR.bind hR.get fun _ => hR.bind (hR.check _) fun files s => hwritten s files
  exact hR.bind (hwrite _) fun _ => hR.bind (hR.check _) fun _ => hwrite _

theorem Report.keeps_write (settings : Entries) (hfetch : ∀ file, (fetchTags file).Keeps R)
    (hwritten : ∀ s files, R s { s with files := files }) : (write settings).Keeps R := by
  unfold write
  refine hR.bind (hR.check _) fun source => ?_
  refine hR.bind (hR.check _) fun path => ?_
  refine hR.bind (hR.readSaved _) fun files => ?_
  refine hR.bind (keeps_build hR hfetch files) fun report => ?_
  refine hR.bind (hR.check _) fun destination => ?_
  exact hR.bind (hR.check _) fun path => keeps_writeValue hR _ _ hwritten

theorem Operation.keeps_nothing {task : Audit Unit} (h : task.Keeps R) : (nothing task).Keeps R :=
  hR.bind h fun _ => hR.pure _

end Keeps

/-- Who asks the service in an operation: the auditor in those of its own, and else the
extractor. -/
def Operation.client : Operation → Client
  | .release client _ | .limit client | .awaitLimit client => client
  | .upToDateCounts _ | .actionUses _ | .flaggedRuns _ | .usesOfAll _ | .permissions _
  | .writeReport _ => .auditor
  | _ => .extractor

/-- Whatever a client does keeps a relation.  Only the extractor looks up tags in the store and
stores reports, and only the auditor takes tags straight from the service and writes reports to
files. -/
structure Client.Keeps (client : Client) (R : Session → Session → Prop) : Prop
    extends Session.Passage R where
  limit : (Release.limit client).Keeps R
  awaitLimit : (Release.awaitLimit client).Keeps R
  latest (action : Value) : (Release.latest client action).Keeps R
  tags (h : client = .extractor) (repository : Value) : (Release.tags repository).Keeps R
  stored (h : client = .extractor) (document : Value) :
    (Audit.insert Report.storedReports document).Keeps R
  fetchTags (h : client = .auditor) (repository : Value) : (Report.fetchTags repository).Keeps R
  written (h : client = .auditor) (s : Session) (files : Files) : R s { s with files := files }

section Keeps

variable {R : Session → Session → Prop}

/-- Every operation keeps what its client keeps, but for taking a token, which no other operation
does by itself. -/
theorem Operation.keeps_run_of {operation : Operation} (hR : operation.client.Keeps R)
    (htoken : operation = .nextToken → Audit.nextToken.Keeps R) : operation.run.Keeps R := by
  have hpassage := hR.toPassage
  have hlookup : operation.client = .extractor → ∀ use, (Release.isUpToDate use).Keeps R :=
    fun h => Release.keeps_isUpToDate hpassage (h ▸ hR.latest)
  cases operation with
  | nextToken => exact hR.bind (htoken rfl) fun _ => hR.pure _
  | tags repository => exact hR.tags rfl repository
  | release client action => exact hR.latest action
  | limit client => exact hR.bind hR.limit fun _ => hR.pure _
  | awaitLimit client => exact keeps_nothing hpassage hR.awaitLimit
  | isUpToDate use => exact hR.bind (hlookup rfl use) fun _ => hR.pure _
  | extractWorkflow text =>
    exact hR.bind (Extraction.keeps_workflow hpassage (hlookup rfl) text) fun _ => hR.pure _
  | extractJobs jobs workflowCondition =>
    exact hR.bind (Extraction.keeps_jobs hpassage (hlookup rfl) jobs workflowCondition)
      fun _ => hR.pure _
  | extractSteps steps jobCondition workflowCondition =>
    exact hR.bind (Extraction.keeps_steps hpassage
      (hlookup rfl) steps jobCondition workflowCondition) fun _ => hR.pure _
  | reportPermissions named =>
    exact keeps_nothing hpassage (Findings.keeps_reportPermissions hpassage named)
  | reportSecrets job step =>
    exact keeps_nothing hpassage (Findings.keeps_reportSecrets hpassage job step)
  | reviewSteps named => exact keeps_nothing hpassage (hR.check _)
  | linesWith path needle =>
    exact hR.bind (Bundle.keeps_linesWith hpassage path needle) fun _ => hR.pure _
  | separate text => exact hR.bind (Bundle.keeps_separate hpassage text) fun _ => hR.pure _
  | readBundle =>
    exact hR.bind (hR.bind (hR.readText _) fun _ => hR.check _) fun _ => hR.pure _
  | writeReport settings =>
    exact keeps_nothing hpassage
      (Report.keeps_write hpassage settings (hR.fetchTags rfl) (hR.written rfl))
  | storeReport files id repository =>
    exact Report.keeps_store hpassage files id repository (hR.tags rfl repository) (hR.stored rfl)
  | runBatch settings =>
    exact keeps_nothing hpassage
      (Batch.keeps_run hpassage (hlookup rfl) (hR.tags rfl) (hR.stored rfl) settings)
  | say message => exact keeps_nothing hpassage (hR.bind (hR.check _) fun _ => hR.say _)
  | scanCode code => exact keeps_nothing hpassage (Code.Statistics.keeps_reportScan hpassage _)
  | scanFile path =>
    exact keeps_nothing hpassage
      (hR.bind (hR.readTextOf path) fun _ => Code.Statistics.keeps_reportScan hpassage _)
  | scanFileImports path =>
    exact keeps_nothing hpassage
      (hR.bind (hR.readTextOf path) fun _ => Code.Statistics.keeps_reportScan hpassage _)
  -- the other operations are checks of values
  | flaggedLines | upToDateCounts | actionUses | flaggedRuns | usesOfAll | permissions =>
    exact hR.bind (hR.check _) fun _ => hR.pure _

/-- Every operation keeps what its lookups, the insertions of reports and the writing of files
keep. -/
theorem Operation.keeps_run (hR : Session.Course R)
    (hlatest : ∀ client action, (Release.latest client action).Keeps R)
    (htags : ∀ repository, (Release.tags repository).Keeps R)
    (hstored : ∀ document, (Audit.insert Report.storedReports document).Keeps R)
    (hwritten : ∀ s files, R s { s with files := files }) (operation : Operation) :
    operation.run.Keeps R := by
  refine operation.keeps_run_of ⟨hR.toPassage, ?_, ?_, hlatest _, fun _ => htags, fun _ => hstored,
    fun _ => Report.keeps_fetchTags hR, fun _ => hwritten⟩ fun _ => hR.nextToken
  · exact Release.keeps_limit hR _
  · exact Release.keeps_awaitLimit hR _

/-- What every operation keeps is kept by any row of them. -/
theorem Session.keeps_after (hR : Session.Passage R)
    (hrun : ∀ operation : Operation, operation.run.Keeps R)
    (operations : List Operation) (s : Session) : R s (s.after operations) := by
  induction operations generalizing s with
  | nil => exact hR.refl s
  | cons operation operations ih => exact hR.trans (hrun operation s) (ih _)

end Keeps

end WorkflowAudit
