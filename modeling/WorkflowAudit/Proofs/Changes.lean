import Mathlib.Logic.Relation
import WorkflowAudit.Batch
import WorkflowAudit.Proofs.Runs

/-! # What tasks change

A task reaches its session through five effects only: it prints, asks the web service, waits, puts a
document into a collection, or takes the next access token.  `Session.Change` lists them.

What a run can lead to is said once for each operation, for any relation between sessions that goes
with runs: an operation *keeps* the relation when every run of it, also one that fails half way,
leads to a session in that relation to the one before it (`Audit.Keeps`).  A relation that printing
keeps (`Session.Passage`) can be followed through tasks in a row, and one that every effect but
insertion keeps (`Session.Course`) through lookups as well.  A batch keeps what its lookups and its
insertions keep, and an insertion into a cache comes only after a look that found nothing
(`Release.keeps_latest`, `Release.keeps_tags`).

The first such relation is that of a sequence of effects that fills no collections but those named
(`Audit.Within`).  What no effect can do then holds of every run of every operation: a collection
that is not named keeps its documents (`Session.Changes.documents_eq`), the files stay as they are
(`Session.Changes.files_eq`), and no request is forgotten (`Session.Changes.requests_prefix`).
-/
namespace WorkflowAudit
namespace Session

/-- One effect on a session; documents go into the collections `into` only. -/
inductive Change (into : List String) : Session → Session → Prop where
  | printed (s : Session) (text : List Char) :
    Change into s (s.printed text)
  | asked (s : Session) (path authorization : String) :
    Change into s (s.asked path authorization)
  | answered (s : Session) (path authorization : String) {answer : Answer}
    {left : List (String × List Answer)} (h : takeAnswer? path s.answers = some (answer, left)) :
    Change into s { s.asked path authorization with answers := left }
  | waited (s : Session) (seconds : Value) :
    Change into s { s with log := { s.log with waits := s.log.waits ++ [seconds] } }
  | inserted (s : Session) {collection : String} (document : Value) (h : collection ∈ into) :
    Change into s (s.inserted collection document)
  | rotated (s : Session) : Change into s { s with tokens := s.tokens.rotated }

/-- Effects in a row. -/
abbrev Changes (into : List String) : Session → Session → Prop :=
  Relation.ReflTransGen (Change into)

variable {into more : List String} {s s' : Session}

theorem Change.mono (hsub : into ⊆ more) (h : Change into s s') : Change more s s' := by
  cases h with
  | printed text => exact .printed s text
  | asked path authorization => exact .asked s path authorization
  | answered path authorization h => exact .answered s path authorization h
  | waited seconds => exact .waited s seconds
  | inserted document h => exact .inserted s document (hsub h)
  | rotated => exact .rotated s

/-- A collection that is not named keeps its documents. -/
theorem Changes.documents_eq (h : Changes into s s') {collection : String}
    (hc : collection ∉ into) : s'.store.documents collection = s.store.documents collection := by
  induction h with
  | refl => rfl
  | tail _ hstep ih =>
    cases hstep with
    | inserted document hmem =>
      -- the only effect on the store, and it is on another collection
      have hne : collection ≠ _ := fun he => hc (he ▸ hmem)
      rw [store_inserted, Store.documents_insert_of_ne _ document hne]
      exact ih
    | _ => exact ih

/-- No effect touches the files. -/
theorem Changes.files_eq (h : Changes into s s') : s'.files = s.files := by
  induction h with
  | refl => rfl
  | tail _ hstep ih =>
    cases hstep with
    | _ => exact ih

/-- The requests of a session are never forgotten. -/
theorem Changes.requests_prefix (h : Changes into s s') :
    s.log.requests <+: s'.log.requests := by
  induction h with
  | refl => exact List.prefix_rfl
  | tail _ hstep ih =>
    cases hstep with
    | asked | answered => exact ih.trans (List.prefix_append _ _)
    | _ => exact ih

/-- A relation between a session and a later one that goes with runs: it holds between a session and
itself, it passes on, and what is printed does not matter. -/
structure Passage (R : Session → Session → Prop) : Prop where
  refl (s : Session) : R s s
  trans {s s₁ s₂ : Session} (h : R s s₁) (h' : R s₁ s₂) : R s s₂
  printed (s : Session) (text : List Char) : R s (s.printed text)

/-- Such a relation that holds across every effect that fills no collection. -/
structure Course (R : Session → Session → Prop) : Prop extends Passage R where
  effect {s s' : Session} (h : Change [] s s') : R s s'

theorem course_changes (into : List String) : Course (Changes into) where
  refl _ := .refl
  trans h h' := Relation.ReflTransGen.trans h h'
  printed s text := .single (.printed s text)
  effect h := .single (h.mono (List.nil_subset into))

/-- Effects that fill no collection leave what is found in one. -/
theorem Changes.findOne?_eq (h : Changes [] s s') (collection name : String) (value : Value) :
    s'.store.findOne? collection name value = s.store.findOne? collection name value := by
  unfold Store.findOne?
  rw [h.documents_eq List.not_mem_nil]

end Session

namespace Audit

variable {α β : Type}

/-- Every run of a task, also one that fails, leads to a session in a given relation to the one
before it. -/
def Keeps (R : Session → Session → Prop) (task : Audit α) : Prop :=
  ∀ s, R s (task.perform s).2

/-- The same for the runs that begin where something is known. -/
def KeepsFrom (P : Session → Prop) (R : Session → Session → Prop) (task : Audit α) : Prop :=
  ∀ s, P s → R s (task.perform s).2

theorem Keeps.from {R : Session → Session → Prop} {task : Audit α} (h : task.Keeps R)
    (P : Session → Prop) : task.KeepsFrom P R :=
  fun s _ => h s

/-- What follows a look into a collection knows whether something was found. -/
theorem Keeps.findOne_bind {R : Session → Session → Prop} {collection name : String} {value : Value}
    {next : Option Value → Audit β} (hfound : ∀ document, (next (some document)).Keeps R)
    (hmissing : (next none).KeepsFrom (·.store.findOne? collection name value = none) R) :
    (Audit.findOne collection name value >>= next).Keeps R := by
  intro s
  rw [perform_bind, perform_findOne]
  cases h : s.store.findOne? collection name value with
  | some document => exact hfound document s
  | none => exact hmissing s h

end Audit

/-! ## Tasks put together -/

namespace Session.Passage

open Audit

variable {α β : Type} {R : Session → Session → Prop} (hR : Passage R)

include hR

theorem pure (a : α) : (Pure.pure a : Audit α).Keeps R := fun s => hR.refl s

theorem throw (failure : Failure) : (MonadExcept.throw failure : Audit α).Keeps R :=
  fun s => hR.refl s

theorem get : (MonadState.get : Audit Session).Keeps R := fun s => hR.refl s

theorem check (result : Except Failure α) : (Audit.check result).Keeps R := by
  intro s
  rw [perform_check]
  exact hR.refl s

theorem bind {task : Audit α} {next : α → Audit β} (h : task.Keeps R)
    (hnext : ∀ a, (next a).Keeps R) : (task >>= next).Keeps R := by
  intro s
  have hs := h s
  rw [perform_bind]
  rcases hrun : task.perform s with ⟨outcome, s₁⟩
  rw [hrun] at hs
  cases outcome with
  | error failure => exact hs
  | ok a => exact hR.trans hs (hnext a s₁)

theorem map {task : Audit α} (f : α → β) (h : task.Keeps R) : (f <$> task).Keeps R := by
  rw [map_eq_pure_bind]
  exact hR.bind h fun a => hR.pure (f a)

theorem tryCatch {task : Audit α} {rescue : Failure → Audit α} (h : task.Keeps R)
    (hrescue : ∀ failure, (rescue failure).Keeps R) :
    (MonadExcept.tryCatch task rescue).Keeps R := by
  intro s
  have hs := h s
  rw [perform_tryCatch]
  rcases hrun : task.perform s with ⟨outcome, s₁⟩
  rw [hrun] at hs
  cases outcome with
  | error failure => exact hR.trans hs (hrescue failure s₁)
  | ok a => exact hs

theorem foldlM {visit : β → α → Audit β} (hvisit : ∀ found a, (visit found a).Keeps R)
    (items : List α) (start : β) : (items.foldlM visit start).Keeps R := by
  induction items generalizing start with
  | nil => exact hR.pure start
  | cons a items ih =>
    rw [List.foldlM_cons]
    exact hR.bind (hvisit start a) fun found => ih found

theorem mapM {visit : α → Audit β} (hvisit : ∀ a, (visit a).Keeps R) (items : List α) :
    (items.mapM visit).Keeps R := by
  induction items with
  | nil => exact hR.pure []
  | cons a items ih =>
    rw [List.mapM_cons]
    exact hR.bind (hvisit a) fun b => hR.bind ih fun bs => hR.pure (b :: bs)

theorem forM {visit : α → Audit Unit} (hvisit : ∀ a, (visit a).Keeps R) (items : List α) :
    (items.forM visit).Keeps R := by
  induction items with
  | nil => exact hR.pure ()
  | cons a items ih => exact hR.bind (hvisit a) fun _ => ih

theorem say (line : List Char) : (Audit.say line).Keeps R := by
  intro s
  rw [perform_say]
  exact hR.printed s _

theorem findOne (collection name : String) (value : Value) :
    (Audit.findOne collection name value).Keeps R := by
  intro s
  rw [perform_findOne]
  exact hR.refl s

end Session.Passage

/-! ## The effects themselves -/

namespace Session.Course

open Audit

variable {α β : Type} {R : Session → Session → Prop} (hR : Course R)

include hR

theorem changes {s s' : Session} (h : Changes [] s s') : R s s' := by
  induction h with
  | refl => exact hR.refl _
  | tail _ hstep ih => exact hR.trans ih (hR.effect hstep)

theorem nextToken : Audit.nextToken.Keeps R := by
  intro s
  rw [perform_nextToken]
  exact hR.effect (.rotated s)

theorem request (path authorization : String) : (Audit.request path authorization).Keeps R := by
  intro s
  rw [perform_request]
  cases h : takeAnswer? path s.answers with
  | none => exact hR.effect (.asked s path authorization)
  | some taken => exact hR.effect (.answered s path authorization h)

theorem wait (seconds : Value) : (Audit.wait seconds).Keeps R := by
  refine hR.bind hR.get fun session => ?_
  split
  · exact hR.throw _
  · exact fun s => hR.effect (.waited s seconds)

/-! ## A document that is looked for and then put in

Between a look into a collection that finds nothing and the insertion that follows, no collection is
filled; so at the insertion there still is nothing to be found. -/

section Missing

variable {collection name : String} {value : Value}

theorem bind_missing {task : Audit α} {next : α → Audit β} (h : task.Keeps (Changes []))
    (hnext : ∀ a, (next a).KeepsFrom (·.store.findOne? collection name value = none) R) :
    (task >>= next).KeepsFrom (·.store.findOne? collection name value = none) R := by
  intro s hs
  have hchanges := h s
  rw [perform_bind]
  rcases hrun : task.perform s with ⟨outcome, s₁⟩
  rw [hrun] at hchanges
  cases outcome with
  | error failure => exact hR.changes hchanges
  | ok a =>
    exact hR.trans (hR.changes hchanges) (hnext a s₁ ((hchanges.findOne?_eq _ _ _).trans hs))

/-- A check passes on what it has found out. -/
theorem check_bind_missing {result : Except Failure α} {next : α → Audit β}
    (hnext : ∀ a, result = .ok a →
      (next a).KeepsFrom (·.store.findOne? collection name value = none) R) :
    (Audit.check result >>= next).KeepsFrom (·.store.findOne? collection name value = none) R := by
  intro s hs
  rw [perform_check_bind]
  cases result with
  | error failure => exact hR.refl s
  | ok a => exact hnext a rfl s hs

end Missing

end Session.Course

/-! ## Releases and tags -/

namespace Release

open Audit

variable {R : Session → Session → Prop} (hR : Session.Course R)

include hR

theorem keeps_credential : credential.Keeps R :=
  hR.bind hR.get fun _ => hR.pure _

theorem keeps_tokenFor (client : Client) : (tokenFor client).Keeps R := by
  cases client with
  | extractor => exact hR.nextToken
  | auditor => exact keeps_credential hR

theorem keeps_limit (client : Client) : (limit client).Keeps R := by
  unfold limit
  -- the two clients differ in the token they ask with only
  extract_lets ask
  have hask : ∀ token, (ask token).Keeps R := by
    intro token
    refine hR.bind (hR.request _ _) fun answer => ?_
    split
    · exact hR.pure _
    · exact hR.pure _
  cases client with
  | extractor => exact hask _
  | auditor => exact hR.bind (keeps_credential hR) hask

theorem keeps_announceWait (client : Client) (seconds : Value) :
    (announceWait client seconds).Keeps R := by
  cases client with
  | extractor => exact hR.pure ()
  | auditor => exact hR.bind (hR.check _) fun _ => hR.say _

theorem keeps_awaitLimit (client : Client) : (awaitLimit client).Keeps R := by
  unfold awaitLimit
  refine hR.bind (keeps_limit hR client) fun (remaining, reset) => ?_
  refine hR.bind (hR.check _) fun exhausted => ?_
  split
  · refine hR.bind hR.get fun session => ?_
    refine hR.bind (hR.check _) fun now => ?_
    refine hR.bind (hR.check _) fun seconds => ?_
    exact hR.bind (keeps_announceWait hR client seconds) fun _ => hR.wait seconds
  · exact hR.pure ()

theorem keeps_reportRefusal (client : Client) (answer : Answer) :
    (reportRefusal client answer).Keeps R := by
  cases client with
  | extractor => exact hR.say _
  | auditor => exact hR.pure ()

omit hR in
theorem addressPart_ok {value : Value} {name : String} (h : addressPart value = .ok name) :
    value = .text name := by
  cases value with
  | text s => exact congrArg Value.text (pure_ok.mp h)
  | _ => cases h

/-- A lookup of a release fills the collection of known releases, and only where it has found
nothing. -/
theorem keeps_latest (client : Client) (action : Value)
    (hinsert : ∀ s name release document, action = .text name →
      s.store.findOne? releaseCache "name" action = none → named release action = .ok document →
        R s (s.inserted releaseCache document)) :
    (latest client action).Keeps R := by
  refine hR.bind hR.get fun session => ?_
  generalize answersFor session releasePath action + 1 = attempts
  induction attempts with
  | zero => exact hR.throw _
  | succ attempts ih =>
    unfold latestWithin
    refine hR.bind (hR.check _) fun shown => hR.bind (hR.say _) fun _ => ?_
    refine Keeps.findOne_bind (fun release => hR.pure release) ?_
    refine hR.check_bind_missing fun name hname => ?_
    refine hR.bind_missing (keeps_tokenFor (Session.course_changes []) client) fun token => ?_
    refine hR.bind_missing ((Session.course_changes []).request _ _) fun answer => ?_
    split
    · refine hR.check_bind_missing fun release _ => ?_
      refine hR.check_bind_missing fun document hdocument => ?_
      intro s hs
      rw [perform_bind, perform_insert]
      exact hinsert s name release document (addressPart_ok hname) hs hdocument
    · -- a refusal spends one attempt, so the rest is the induction hypothesis
      refine Keeps.from (hR.bind (keeps_reportRefusal hR client answer) fun _ => ?_) _
      exact hR.bind (keeps_awaitLimit hR client) fun _ => ih

/-- A lookup of tags fills the collection of known tags, and only where it has found nothing. -/
theorem keeps_tags (repository : Value)
    (hinsert : ∀ s name tags, repository = .text name →
      s.store.findOne? tagsCache "repo" repository = none →
        R s (s.inserted tagsCache (.record [("repo", repository), ("tags", tags)]))) :
    (tags repository).Keeps R := by
  refine hR.bind hR.get fun session => ?_
  generalize answersFor session tagsPath repository + 1 = attempts
  induction attempts with
  | zero => exact hR.throw _
  | succ attempts ih =>
    unfold tagsWithin
    refine hR.bind (hR.check _) fun shown => hR.bind (hR.say _) fun _ => ?_
    refine Keeps.findOne_bind (fun document => hR.check _) ?_
    refine hR.check_bind_missing fun name hname => ?_
    refine hR.bind_missing (Session.course_changes []).nextToken fun token => ?_
    refine hR.bind_missing ((Session.course_changes []).request _ _) fun answer => ?_
    split
    · refine hR.check_bind_missing fun found _ => ?_
      intro s hs
      rw [perform_bind, perform_insert]
      exact hinsert s name found (addressPart_ok hname) hs
    · refine Keeps.from (hR.bind (hR.say _) fun _ => ?_) _
      exact hR.bind (keeps_awaitLimit hR .extractor) fun _ => ih

omit hR in
theorem keeps_isUpToDate (hR : Session.Passage R)
    (hlatest : ∀ action, (latest .extractor action).Keeps R) (use : Value) :
    (isUpToDate use).Keeps R := by
  unfold isUpToDate
  refine hR.bind (hR.check _) fun text => ?_
  dsimp only
  split
  · exact hR.pure true
  · refine hR.bind (hlatest _) fun release => ?_
    exact hR.bind (hR.check _) fun newest => hR.pure _

end Release

/-! ## Extraction -/

namespace Extraction

open Audit

variable {R : Session → Session → Prop} (hR : Session.Passage R)
  (hlookup : ∀ use, (Release.isUpToDate use).Keeps R)

include hR hlookup

theorem keeps_step (position : Nat) (jobCondition workflowCondition source : Value) :
    (step position jobCondition workflowCondition source).Keeps R := by
  unfold step
  refine hR.bind (hR.check _) fun name => ?_
  refine hR.bind (hR.check _) fun conditional => ?_
  refine hR.bind (hR.check _) fun uses => ?_
  refine hR.bind (hR.check _) fun script => ?_
  -- what follows the question about the release is the same whether it is asked or not
  extract_lets summarize
  have hrest : ∀ security, (summarize security).Keeps R := by
    intro security
    unfold summarize
    split
    · exact hR.pure _
    · refine hR.bind (hR.check _) fun text => ?_
      refine hR.bind (hR.check _) fun encoded => ?_
      exact hR.bind (hR.check _) fun lines => hR.pure _
  split
  · exact hR.bind (hR.map _ (hlookup uses)) hrest
  · exact hR.bind (hR.pure _) hrest

theorem keeps_stepsFrom (jobCondition workflowCondition : Value) (sources : List Value)
    (position : Nat) : (stepsFrom jobCondition workflowCondition position sources).Keeps R := by
  induction sources generalizing position with
  | nil => exact hR.pure []
  | cons source rest ih =>
    refine hR.bind (keeps_step hR hlookup position jobCondition workflowCondition source)
      fun record => ?_
    exact hR.bind (ih (position + 1)) fun records => hR.pure _

theorem keeps_steps (sources jobCondition workflowCondition : Value) :
    (steps sources jobCondition workflowCondition).Keeps R :=
  hR.bind (hR.check _) fun items =>
    keeps_stepsFrom hR hlookup jobCondition workflowCondition items 1

theorem keeps_job (workflowCondition source : Value) : (job workflowCondition source).Keeps R := by
  unfold job
  refine hR.bind (hR.check _) fun name => ?_
  refine hR.bind (hR.check _) fun uses => ?_
  refine hR.bind (hR.check _) fun conditional => ?_
  refine hR.bind (hR.check _) fun permissions => ?_
  refine hR.bind (hR.check _) fun sources => ?_
  exact hR.bind (keeps_steps hR hlookup _ _ workflowCondition) fun records => hR.pure _

theorem keeps_jobEntries (workflowCondition : Value) (entries : Entries) :
    (jobEntries workflowCondition entries).Keeps R := by
  induction entries with
  | nil => exact hR.pure []
  | cons entry rest ih =>
    refine hR.bind (keeps_job hR hlookup workflowCondition entry.2) fun record => ?_
    exact hR.bind ih fun records => hR.pure _

theorem keeps_jobs (sources workflowCondition : Value) : (jobs sources workflowCondition).Keeps R :=
  hR.bind (hR.check _) fun entries => keeps_jobEntries hR hlookup workflowCondition entries

theorem keeps_ofDocument (document : Value) : (ofDocument document).Keeps R := by
  unfold ofDocument
  split
  · exact hR.pure _
  · split
    · split
      · exact hR.pure _
      · -- a job that fails is caught, but what was cached before it stays
        refine hR.bind (hR.tryCatch ?_ fun _ => hR.pure none) fun found => hR.pure _
        exact hR.map _ (keeps_jobs hR hlookup _ _)
    · exact hR.pure _
    · exact hR.pure _

theorem keeps_workflow (text : Value) : (workflow text).Keeps R := by
  unfold workflow
  split
  · unfold ofText
    split
    · exact keeps_ofDocument hR hlookup _
    · exact hR.pure _
    · exact hR.pure _
    · exact hR.throw _
  · exact hR.throw _

end Extraction

/-! ## Reports and batches -/

namespace Report

open Audit

variable {R : Session → Session → Prop} (hR : Session.Passage R)

include hR

theorem keeps_addUse (name tags : Value) (report : FileReport) (use : Findings.ActionUse) :
    (addUse name tags report use).Keeps R := by
  unfold addUse
  refine hR.bind (hR.check _) fun (labels, announced) => ?_
  cases announced with
  | true => exact hR.bind (hR.say _) fun _ => hR.check _
  | false => exact hR.check _

theorem keeps_addWorkflow {fetchTags : Audit Value} (hfetch : fetchTags.Keeps R)
    (report : FileReport) (workflow : Value) : (addWorkflow fetchTags report workflow).Keeps R := by
  unfold addWorkflow
  refine hR.bind (hR.check _) fun runs => ?_
  refine hR.bind (hR.check _) fun uses => ?_
  refine hR.bind (hR.check _) fun permissions => ?_
  refine hR.bind (hR.check _) fun name => ?_
  refine hR.bind (hR.check _) fun events => ?_
  refine hR.bind (hR.check _) fun report => ?_
  -- what follows the look at the entry is the same whether it is taken or not
  extract_lets judge
  have hrest : ∀ u, (judge u).Keeps R := by
    intro u
    refine hR.bind (hR.check _) fun report => ?_
    refine hR.bind (hR.check _) fun report => ?_
    refine hR.bind hfetch fun tags => ?_
    exact hR.foldlM (fun report use => keeps_addUse hR name tags report use) uses report
  split
  · exact hR.bind (hR.check _) fun _ => hrest ()
  · exact hrest ()

theorem keeps_ofFile {fetchTags : Audit Value} (hfetch : fetchTags.Keeps R) (workflows : Value) :
    (ofFile fetchTags workflows).Keeps R :=
  hR.bind (hR.check _) fun items =>
    hR.foldlM (fun report workflow => keeps_addWorkflow hR hfetch report workflow) items []

/-- The report with one more file. -/
def addFile (tagsFor : Value → Audit Value) (files : Value) (report : Report) (file : Value) :
    Audit Report := do
  Audit.check file.checkKey
  let entries ← Audit.check (files.entriesFor "get")
  let workflows := (Entries.lookup? file entries).getD .null
  return Entries.insert file (← ofFile (tagsFor file) workflows) report

omit hR in
theorem build_eq (tagsFor : Value → Audit Value) (files : Value) :
    build tagsFor files = (do
      (← Audit.check files.items).foldlM (addFile tagsFor files) []) := rfl

theorem keeps_addFile {tagsFor : Value → Audit Value} (hfetch : ∀ file, (tagsFor file).Keeps R)
    (files : Value) (report : Report) (file : Value) :
    (addFile tagsFor files report file).Keeps R := by
  refine hR.bind (hR.check _) fun _ => ?_
  refine hR.bind (hR.check _) fun entries => ?_
  exact hR.bind (keeps_ofFile hR (hfetch file) _) fun found => hR.pure _

theorem keeps_build {tagsFor : Value → Audit Value} (hfetch : ∀ file, (tagsFor file).Keeps R)
    (files : Value) : (build tagsFor files).Keeps R := by
  rw [build_eq]
  refine hR.bind (hR.check _) fun names => ?_
  exact hR.foldlM (fun report file => keeps_addFile hR hfetch files report file) names []

omit hR in
theorem keeps_fetchTags (hR : Session.Course R) (repository : Value) :
    (fetchTags repository).Keeps R := by
  refine hR.bind (hR.check _) fun name => ?_
  exact hR.bind (hR.request _ _) fun answer => hR.check _

theorem keeps_store (files id repository : Value) (htags : (Release.tags repository).Keeps R)
    (hstored : ∀ document, (Audit.insert storedReports document).Keeps R) :
    (store files id repository).Keeps R := by
  unfold store
  refine hR.bind (keeps_build hR (fun _ => htags) files) fun report => ?_
  exact hR.bind (hstored _) fun _ => hR.pure _

end Report

namespace Batch

open Audit

variable {R : Session → Session → Prop} (hR : Session.Passage R)
  (hlookup : ∀ use, (Release.isUpToDate use).Keeps R)

include hR hlookup

theorem keeps_extractAll (items : List Value) : (extractAll items).Keeps R := by
  refine hR.mapM (fun item => ?_) items
  refine hR.bind (hR.check _) fun name => ?_
  refine hR.bind (hR.check _) fun text => ?_
  exact hR.bind (Extraction.keeps_workflow hR hlookup text) fun record => hR.pure _

variable (htags : ∀ repository, (Release.tags repository).Keeps R)
  (hstored : ∀ document, (Audit.insert Report.storedReports document).Keeps R)

include htags hstored

theorem keeps_auditDocument (document : Value) : (auditDocument document).Keeps R := by
  unfold auditDocument
  refine hR.bind (hR.check _) fun id => ?_
  refine hR.bind (hR.findOne _ _ _) fun found => ?_
  cases found with
  | some result => exact hR.say _
  | none =>
    refine hR.bind (hR.check _) fun repository => ?_
    refine hR.bind (hR.check _) fun items => ?_
    refine hR.bind (keeps_extractAll hR hlookup items) fun records => ?_
    refine hR.bind (hR.check _) fun groups => ?_
    refine hR.bind ?_ fun _ => hR.pure ()
    exact Report.keeps_store hR _ id repository (htags repository) hstored

theorem keeps_run (settings : Entries) : (run settings).Keeps R := by
  unfold run
  refine hR.bind (hR.check _) fun count => ?_
  refine hR.bind hR.get fun session => ?_
  refine hR.bind (hR.check _) fun shown => hR.bind (hR.say _) fun _ => ?_
  refine hR.bind (hR.check _) fun size => ?_
  exact hR.forM (keeps_auditDocument hR hlookup htags hstored) _

end Batch

/-! ## The collections that tasks fill -/

namespace Audit

variable {α β : Type} {into more : List String}

/-- Every run of a task, also one that fails, is a sequence of effects that puts documents into the
collections `into` only. -/
def Within (into : List String) (task : Audit α) : Prop :=
  ∀ s, Session.Changes into s (task.perform s).2

namespace Within

theorem pure (a : α) : (Pure.pure a : Audit α).Within into :=
  (Session.course_changes into).pure a

theorem check (result : Except Failure α) : (Audit.check result).Within into :=
  (Session.course_changes into).check result

theorem bind {task : Audit α} {next : α → Audit β} (h : task.Within into)
    (hnext : ∀ a, (next a).Within into) : (task >>= next).Within into :=
  (Session.course_changes into).bind h hnext

theorem foldlM {visit : β → α → Audit β} (hvisit : ∀ found a, (visit found a).Within into)
    (items : List α) (start : β) : (items.foldlM visit start).Within into :=
  (Session.course_changes into).foldlM hvisit items start

theorem say (line : List Char) : (Audit.say line).Within into :=
  (Session.course_changes into).say line

theorem insert {collection : String} (document : Value) (h : collection ∈ into) :
    (Audit.insert collection document).Within into := by
  intro s
  rw [perform_insert]
  exact .single (.inserted s document h)

end Within

end Audit

section Filled

open Audit Session

variable {into : List String}

/-- A lookup of a release fills the collection of known releases only. -/
theorem Release.within_latest (client : Client) (action : Value) (h : releaseCache ∈ into) :
    (latest client action).Within into :=
  keeps_latest (course_changes into) client action
    fun s _ _ document _ _ _ => .single (.inserted s document h)

/-- A lookup of tags fills the collection of known tags only. -/
theorem Release.within_tags (repository : Value) (h : tagsCache ∈ into) :
    (tags repository).Within into :=
  keeps_tags (course_changes into) repository fun s _ _ _ _ => .single (.inserted s _ h)

theorem Release.within_isUpToDate (use : Value) (h : releaseCache ∈ into) :
    (isUpToDate use).Within into :=
  keeps_isUpToDate (course_changes into).toPassage (fun action =>
    within_latest .extractor action h) use

namespace Report

theorem within_addUse (name tags : Value) (report : FileReport) (use : Findings.ActionUse) :
    (addUse name tags report use).Within into :=
  keeps_addUse (course_changes into).toPassage name tags report use

theorem within_addWorkflow {fetchTags : Audit Value} (hfetch : fetchTags.Within into)
    (report : FileReport) (workflow : Value) :
    (addWorkflow fetchTags report workflow).Within into :=
  keeps_addWorkflow (course_changes into).toPassage hfetch report workflow

theorem within_ofFile {fetchTags : Audit Value} (hfetch : fetchTags.Within into)
    (workflows : Value) : (ofFile fetchTags workflows).Within into :=
  keeps_ofFile (course_changes into).toPassage hfetch workflows

theorem within_addFile {tagsFor : Value → Audit Value} (hfetch : ∀ file, (tagsFor file).Within into)
    (files : Value) (report : Report) (file : Value) :
    (addFile tagsFor files report file).Within into :=
  keeps_addFile (course_changes into).toPassage hfetch files report file

theorem within_build {tagsFor : Value → Audit Value} (hfetch : ∀ file, (tagsFor file).Within into)
    (files : Value) : (build tagsFor files).Within into :=
  keeps_build (course_changes into).toPassage hfetch files

theorem within_fetchTags (repository : Value) : (fetchTags repository).Within into :=
  keeps_fetchTags (course_changes into) repository

end Report

namespace Batch

/-- Extraction fills the collection of known releases only. -/
theorem within_extractAll (items : List Value) (h : Release.releaseCache ∈ into) :
    (extractAll items).Within into :=
  keeps_extractAll (course_changes into).toPassage (fun use =>
    Release.within_isUpToDate use h) items

/-- The collections that a batch fills. -/
def filled : List String := [Release.releaseCache, Release.tagsCache, Report.storedReports]

theorem within_auditDocument (document : Value) : (auditDocument document).Within filled :=
  keeps_auditDocument (course_changes filled).toPassage
    (fun use => Release.within_isUpToDate use (by simp [filled]))
    (fun repository => Release.within_tags repository (by simp [filled]))
    (fun report => Within.insert report (by simp [filled])) document

/-- A batch fills the caches and the collection of stored reports only. -/
theorem within_run (settings : Entries) : (run settings).Within filled :=
  keeps_run (course_changes filled).toPassage
    (fun use => Release.within_isUpToDate use (by simp [filled]))
    (fun repository => Release.within_tags repository (by simp [filled]))
    (fun report => Within.insert report (by simp [filled])) settings

end Batch

end Filled

end WorkflowAudit
