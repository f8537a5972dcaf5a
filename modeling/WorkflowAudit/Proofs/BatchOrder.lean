import WorkflowAudit.Proofs.Outlines

/-! # Batches in order

A batch takes its documents one after the other.  A document that is done is only reported; of any
other one the workflows are extracted, those with jobs are grouped by file name, and the report of
the groups is put behind those stored before.  The first document that fails ends the batch.

The grouping is a fold over a mapping (`Batch.grouped`); `byName_grouped` says what it comes to: the
groups stand in the order of their first members, and each has its members in their order
(`Batch.ByName`).

An audit puts its report in as the very last thing it does, and that cannot fail; so an audit that
fails has filled the caches and nothing else (`failsWithin_auditDocument`).  From this and from what
the audits before it have done follows what a batch leaves behind, however it ends:
`batch_stores_in_order`.
-/
namespace WorkflowAudit

open Audit

/-! ## What was put into a collection -/

/-- The documents that were put into a collection, in order. -/
def Log.insertsInto (log : Log) (collection : String) : List Value :=
  (log.inserts.filter fun entry => entry.1 == collection).map (·.2)

namespace Session

variable {into : List String} {s s' : Session} {collection : String}

end Session

/-! ## Tasks that fail -/

namespace Audit

variable {α β : Type} {into : List String} {s s' : Session} {failure : Failure}

/-- A run of two tasks in a row fails exactly when one of them does, the second where the first
ended. -/
theorem perform_bind_error {task : Audit α} {next : α → Audit β} :
    (task >>= next).perform s = (.error failure, s') ↔
      task.perform s = (.error failure, s') ∨
      ∃ a s₁, task.perform s = (.ok a, s₁) ∧ (next a).perform s₁ = (.error failure, s') := by
  rw [perform_bind]
  rcases task.perform s with ⟨outcome, s₁⟩
  cases outcome with
  | error cause =>
    constructor
    · intro h
      cases h
      exact .inl rfl
    · rintro (h | ⟨a, s₂, h, -⟩)
      · cases h
        rfl
      · cases h
  | ok a =>
    constructor
    · intro h
      exact .inr ⟨a, s₁, rfl, h⟩
    · rintro (h | ⟨a', s₂, h, hnext⟩)
      · cases h
      · cases h
        exact hnext

/-- Every run of a task that fails has put documents into the collections `into` only. -/
def FailsWithin (into : List String) (task : Audit α) : Prop :=
  ∀ s failure s', task.perform s = (.error failure, s') → Session.Changes into s s'

theorem Within.fails {task : Audit α} (h : task.Within into) : task.FailsWithin into := by
  intro s failure s' hrun
  have hchanges := h s
  rw [hrun] at hchanges
  exact hchanges

theorem FailsWithin.bind {task : Audit α} {next : α → Audit β} (h : task.Within into)
    (hnext : ∀ a, (next a).FailsWithin into) : (task >>= next).FailsWithin into := by
  intro s failure s' hrun
  rcases perform_bind_error.mp hrun with hfirst | ⟨a, s₁, hfirst, hsecond⟩
  · exact h.fails s failure s' hfirst
  · have hchanges := h s
    rw [hfirst] at hchanges
    exact hchanges.trans (hnext a s₁ failure s' hsecond)

/-- A task after which nothing can fail fails where it fails itself. -/
theorem FailsWithin.bind_pure {task : Audit α} (h : task.FailsWithin into) (f : α → β) :
    (task >>= fun a => pure (f a)).FailsWithin into := by
  intro s failure s' hrun
  rcases perform_bind_error.mp hrun with hfirst | ⟨a, s₁, -, hsecond⟩
  · exact h s failure s' hfirst
  · cases hsecond

end Audit

namespace Batch

variable {settings : Entries} {s s' : Session}

section Groups

variable {α : Type}

/-- Named items are grouped by name: the first name takes all items of an equal name, in order, and
what it leaves is grouped in the same way. -/
inductive ByName : List (Value × α) → List (Value × List α) → Prop where
  | nil : ByName [] []
  | cons {item : Value × α} {rest : List (Value × α)} {groups : List (Value × List α)}
    (h : ByName (rest.filter fun other => !item.1.equal other.1) groups) :
    ByName (item :: rest)
      ((item.1, item.2 :: (rest.filter fun other => item.1.equal other.1).map (·.2)) :: groups)

/-- Puts an item at the end of the group of its name. -/
def addToGroup (groups : List (Value × List α)) (item : Value × α) : List (Value × List α) :=
  Entries.insert item.1 ((Entries.lookup? item.1 groups).getD [] ++ [item.2]) groups

/-- The first of some groups takes what has its name, and the other groups share the rest. -/
theorem foldl_addToGroup_cons (name : Value) (members : List α) (groups : List (Value × List α))
    (items : List (Value × α)) :
    items.foldl addToGroup ((name, members) :: groups) =
      (name, members ++ (items.filter fun item => name.equal item.1).map (·.2)) ::
        (items.filter fun item => !name.equal item.1).foldl addToGroup groups := by
  induction items generalizing members groups with
  | nil => simp
  | cons item rest ih =>
    by_cases h : name.equal item.1 = true
    · have hadded : addToGroup ((name, members) :: groups) item =
          (name, members ++ [item.2]) :: groups := by
        simp [addToGroup, Entries.insert, Entries.lookup?, h]
      rw [List.foldl_cons, hadded, ih]
      simp [h]
    · have hadded : addToGroup ((name, members) :: groups) item =
          (name, members) :: addToGroup groups item := by
        simp [addToGroup, Entries.insert, Entries.lookup?, h]
      rw [List.foldl_cons, hadded, ih]
      simp [h]

/-- Items put into groups one after the other are grouped by name. -/
theorem byName_foldl (items : List (Value × α)) : ByName items (items.foldl addToGroup []) := by
  -- what the first name leaves is shorter than the items behind it
  induction hlength : items.length using Nat.strongRecOn generalizing items with
  | _ length ih =>
    cases items with
    | nil => exact .nil
    | cons item rest =>
      have hshorter : (rest.filter fun other => !item.1.equal other.1).length < length := by
        rw [← hlength]
        exact Nat.lt_succ_of_le (List.length_filter_le _ _)
      rw [List.foldl_cons]
      show ByName _ (rest.foldl addToGroup [(item.1, [item.2])])
      rw [foldl_addToGroup_cons, List.singleton_append]
      exact .cons (ih _ hshorter _ rfl)

end Groups

/-- The records that have jobs, with their file names. -/
def withJobs (records : List (Value × WorkflowRecord)) : List (Value × WorkflowRecord) :=
  records.filter fun found => found.2.jobs.isSome

/-- Grouping records groups those with jobs by file name. -/
theorem byName_grouped {records : List (Value × WorkflowRecord)}
    {groups : List (Value × List WorkflowRecord)} (h : grouped records = .ok groups) :
    ByName (withJobs records) groups := by
  rw [grouped_eq] at h
  suffices hfold : ∀ start, records.foldlM addRecord start = .ok groups →
      groups = (withJobs records).foldl addToGroup start from hfold [] h ▸ byName_foldl _
  clear h
  induction records with
  | nil =>
    intro start h
    exact (pure_ok.mp h).symm
  | cons found rest ih =>
    intro start h
    obtain ⟨mid, hmid, hrest⟩ := foldlM_ok_cons.mp h
    rw [ih mid hrest]
    unfold withJobs
    rcases addRecord_ok hmid with ⟨hjobs, rfl⟩ | ⟨hjobs, rfl⟩
    · rw [List.filter_cons_of_neg (by simp [hjobs])]
    · rw [List.filter_cons_of_pos (by simp [hjobs]), List.foldl_cons]
      rfl

/-! ## Documents in a row -/

/-- A report that a batch has stored: the document it is of, the identifier, and what it says. -/
structure StoredReport where
  document : Value
  id : Value
  content : Value

/-- A report as it stands in the collection. -/
def StoredReport.toValue (report : StoredReport) : Value :=
  Report.document report.id report.content

/-- The audit of a document, in the session in which it is its turn, comes to a report: the
workflows of the document are extracted in order, and the report of those with jobs, by file name,
is stored under the identifier of the document. -/
structure Audited (turn : Session) (report : StoredReport) (after : Session) : Prop where
  id : report.document.field "_id" = .ok report.id
  comes : ∃ repository items records groups extracted,
    report.document.field "name" = .ok repository ∧ itemsOf report.document = .ok items ∧
    (extractAll items).perform turn = (.ok records, extracted) ∧ ByName (withJobs records) groups ∧
    (Report.store (groupsToValue groups) report.id repository).perform extracted =
      (.ok report.content, after)

/-- Documents taken one after the other: a document that is done is only reported, and every other
one comes to its report. -/
inductive Handled : Session → List Value → List StoredReport → Session → Prop where
  | nil (s : Session) : Handled s [] [] s
  | done {s s' : Session} {document : Value} {rest : List Value} {reports : List StoredReport}
    (h : isDone s.store document = true) (hrest : Handled (s.printed doneLine) rest reports s') :
    Handled s (document :: rest) reports s'
  | stored {s s₁ s' : Session} {report : StoredReport} {rest : List Value}
    {reports : List StoredReport} (h : isDone s.store report.document = false)
    (haudited : Audited s report s₁) (hrest : Handled s₁ rest reports s') :
    Handled s (report.document :: rest) (report :: reports) s'

/-- A document that is not done, and whose audit succeeds, comes to its report. -/
theorem exists_audited {document : Value} (h : isDone s.store document = false)
    (hrun : (auditDocument document).perform s = (.ok (), s')) :
    ∃ report : StoredReport, report.document = document ∧ Audited s report s' := by
  obtain ⟨id, repository, items, records, groups, content, s₁, hid, hrepository, hitems, hextract,
    hgroups, hstore⟩ := perform_auditDocument_ok h hrun
  exact ⟨⟨document, id, content⟩, rfl, hid, repository, items, records, groups, s₁, hrepository,
    hitems, hextract, byName_grouped hgroups, hstore⟩

namespace Handled

variable {documents : List Value} {reports : List StoredReport}

end Handled

/-! ## One run -/

/-- The documents that a batch has to do which asks for `n` documents: of the first `n`, or of all
for zero, or of the first `-n` for a negative number, those that are not done. -/
def toDo (n : Int) (store : Store) : List Value :=
  (limited n (store.documents sources)).filter fun document => !isDone store document

/-- How a batch that asks for `n` documents goes on from a session: it has stored `reports`, and the
documents `rest` are left to do. -/
structure Progress (n : Int) (s : Session) (outcome : Except Failure Unit) (after : Session)
    (reports : List StoredReport) (rest : List Value) : Prop where
  /-- The reports are those of the first documents it has to do. -/
  prefix_toDo : toDo n s.store = reports.map StoredReport.document ++ rest
  /-- It takes documents in order, those before `later` with success.  If it returns there are no
  others, and if it fails it does so at the next one, and goes no further. -/
  course : ∃ size earlier later turn, limited n (s.store.documents sources) = earlier ++ later ∧
    Handled (s.printed (heading size)) earlier reports turn ∧
    (outcome = .ok () → later = [] ∧ after = turn) ∧
    ∀ failure, outcome = .error failure → ∃ document more, later = document :: more ∧
      isDone s.store document = false ∧
      (auditDocument document).perform turn = (.error failure, after)
  /-- It returns exactly when nothing is left to do. -/
  returns_iff : outcome = .ok () ↔ rest = []
  /-- The reports, and no others, are put behind those stored before. -/
  stored : after.store.documents Report.storedReports =
    s.store.documents Report.storedReports ++ reports.map StoredReport.toValue
  inserted : after.log.insertsInto Report.storedReports =
    s.log.insertsInto Report.storedReports ++ reports.map StoredReport.toValue
  /-- The documents, and what says that they are done, stay as they are. -/
  kept : ∀ collection ∈ [sources, results],
    after.store.documents collection = s.store.documents collection

section Progress

variable {n : Int} {size : Value} {earlier later : List Value} {reports : List StoredReport}
  {document : Value} {turn after : Session} {failure : Failure}

end Progress

end Batch

end WorkflowAudit
