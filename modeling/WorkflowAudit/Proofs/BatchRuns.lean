import WorkflowAudit.Proofs.Assessment

/-! # Batches run again

A batch skips a document when the collection `Batch.results` says that it is done, and stores the
report of every other document in the collection `Report.storedReports`.  These are two collections,
and nothing in a batch fills the first.  Hence what a batch finds to do is the same every time: a
second run skips the documents that the first skipped and stores the reports of the others again.

`rerun_quiet_iff_nothing_pending` says exactly when a second run has nothing to do, and how many
reports of one document are stored after any number of runs.
-/
namespace WorkflowAudit
namespace Batch

open Audit

variable {settings : Entries} {s s' : Session}

/-! ## What a batch finds to do -/

/-- The number of documents that the settings ask for; zero stands for all. -/
def size (settings : Entries) (store : Store) : Except Failure Value := do
  let count ← Report.setting "count" settings
  return if count.equal (.int 0) then .int (store.documents sources).length else count

/-- The documents that the settings choose. -/
def chosen (settings : Entries) (store : Store) : Except Failure (List Value) := do
  return limited (← countOf (← size settings store)) (store.documents sources)

/-- Whether the report of a document counts as done. -/
def isDone (store : Store) (document : Value) : Bool :=
  match document.field "_id" with
  | .ok id => (store.findOne? results "wfID" id).isSome
  | .error _ => false

/-- The chosen documents that are not done, in order. -/
def pending (settings : Entries) (store : Store) : List Value :=
  ((chosen settings store).toOption.getD []).filter fun document => !isDone store document

/-- What a batch prints before its first document. -/
def heading (size : Value) : List Char :=
  "Collecting ".toList ++ size.displayed ++ " workflows...".toList ++ ['\n']

/-- What a batch prints for a document that is done. -/
def doneLine : List Char := "Already analyzed".toList ++ ['\n']

/-- Whether a value that was looked up is an identifier. -/
def isId (id : Value) : Except Failure Value → Bool
  | .ok found => found.equal id
  | .error _ => false

/-- Whether a document has an identifier. -/
def hasId (id document : Value) : Bool :=
  isId id (document.field "_id")

/-- The number of stored reports of an identifier. -/
def reportsOf (store : Store) (id : Value) : Nat :=
  (store.documents Report.storedReports).countP (Store.matchesField "wfID" id)

/-- A run in a session does nothing but say of each chosen document that it is done. -/
def Quiet (settings : Entries) (s : Session) : Prop :=
  ∃ count documents, size settings s.store = .ok count ∧ chosen settings s.store = .ok documents ∧
    (run settings).perform s =
      (.ok (), s.printed (heading count ++ documents.flatMap fun _ => doneLine))

/-- Runs of one batch in a row. -/
def repeated (settings : Entries) : Nat → Audit Unit
  | 0 => pure ()
  | n + 1 => do
    run settings
    repeated settings n

/-! ## One document -/

theorem isDone_congr {store store' : Store} (h : store'.documents results = store.documents results)
    (document : Value) : isDone store' document = isDone store document := by
  unfold isDone Store.findOne?
  rw [h]

/-- A document that is done is only reported. -/
theorem perform_auditDocument_done {document : Value} (h : isDone s.store document = true) :
    (auditDocument document).perform s = (.ok (), s.printed doneLine) := by
  unfold isDone at h
  unfold auditDocument
  rw [perform_check_bind]
  split at h
  · rename_i id hid
    obtain ⟨result, hfound⟩ := Option.isSome_iff_exists.mp h
    rw [hid]
    simp only [perform_bind, perform_findOne, hfound]
    rfl
  · cases h

/-- The items of a document, each with a file name and a workflow text. -/
def itemsOf (document : Value) : Except Failure (List Value) := do
  (← document.field "workflows").items

/-- The workflows of a document that is not done are extracted and grouped, and their report is
stored. -/
theorem perform_auditDocument_ok {document : Value} (h : isDone s.store document = false)
    (hrun : (auditDocument document).perform s = (.ok (), s')) :
    ∃ id repository items records groups content s₁,
      document.field "_id" = .ok id ∧ document.field "name" = .ok repository ∧
      itemsOf document = .ok items ∧
      (extractAll items).perform s = (.ok records, s₁) ∧ grouped records = .ok groups ∧
      (Report.store (groupsToValue groups) id repository).perform s₁ = (.ok content, s') := by
  unfold auditDocument at hrun
  obtain ⟨id, s₁, hcheck, hrun⟩ := perform_bind_ok.mp hrun
  obtain ⟨hid, rfl⟩ := perform_check_ok.mp hcheck
  have hnone : s.store.findOne? results "wfID" id = none := by
    simpa [isDone, hid] using h
  rw [perform_bind, perform_findOne, hnone] at hrun
  obtain ⟨repository, s₁, hcheck, hrun⟩ := perform_bind_ok.mp hrun
  obtain ⟨hrepository, rfl⟩ := perform_check_ok.mp hcheck
  obtain ⟨items, s₁, hcheck, hrun⟩ := perform_bind_ok.mp hrun
  obtain ⟨hitems, rfl⟩ := perform_check_ok.mp hcheck
  obtain ⟨records, s₁, hextract, hrun⟩ := perform_bind_ok.mp hrun
  obtain ⟨groups, s₂, hcheck, hrun⟩ := perform_bind_ok.mp hrun
  obtain ⟨hgroups, rfl⟩ := perform_check_ok.mp hcheck
  obtain ⟨content, s₃, hstore, hrun⟩ := perform_bind_ok.mp hrun
  obtain ⟨-, rfl⟩ := perform_pure_ok.mp hrun
  exact ⟨id, repository, items, records, groups, content, s₁, hid, hrepository, hitems, hextract,
    hgroups, hstore⟩

/-- A report that is stored at the end of an audit stands behind those stored before. -/
theorem documents_of_stored {items : List Value} {records : List (Value × WorkflowRecord)}
    {files id repository content : Value} {s₁ : Session}
    (hextract : (extractAll items).perform s = (.ok records, s₁))
    (hstore : (Report.store files id repository).perform s₁ = (.ok content, s')) :
    s'.store.documents Report.storedReports =
      s.store.documents Report.storedReports ++ [Report.document id content] := by
  obtain ⟨report, s₂, hbuild, -, rfl⟩ := Report.perform_store_ok.mp hstore
  -- neither extraction nor the lookup of tags touches the stored reports
  have hextracted : Session.Changes [Release.releaseCache] s _ :=
    within_extractAll items (by simp) s
  rw [hextract] at hextracted
  have hbuilt : Session.Changes [Release.tagsCache] s₁ _ :=
    Report.within_build (fun _ => Release.within_tags repository (by simp)) files s₁
  rw [hbuild] at hbuilt
  rw [Session.store_inserted, Store.documents_insert_self, hbuilt.documents_eq (by decide),
    hextracted.documents_eq (by decide)]

/-- A document that is not done gets one report, under its identifier, behind those stored
before. -/
theorem perform_auditDocument_pending {document : Value} (h : isDone s.store document = false)
    (hrun : (auditDocument document).perform s = (.ok (), s')) :
    ∃ id content, document.field "_id" = .ok id ∧
      s'.store.documents Report.storedReports =
        s.store.documents Report.storedReports ++ [Report.document id content] := by
  obtain ⟨id, repository, items, records, groups, content, s₁, hid, -, -, hextract, -, hstore⟩ :=
    perform_auditDocument_ok h hrun
  exact ⟨id, content, hid, documents_of_stored hextract hstore⟩

/-! ## Documents in a row -/

/-- Documents that are all done are only reported. -/
theorem perform_forM_done (documents : List Value)
    (h : ∀ document ∈ documents, isDone s.store document = true) :
    (documents.forM auditDocument).perform s =
      (.ok (), s.printed (documents.flatMap fun _ => doneLine)) := by
  induction documents generalizing s with
  | nil =>
    rw [List.flatMap_nil, Session.printed_nil]
    rfl
  | cons document rest ih =>
    have hdone := perform_auditDocument_done (h document List.mem_cons_self)
    have hrest := ih (s := s.printed doneLine) fun d hd => h d (List.mem_cons_of_mem _ hd)
    rw [show (document :: rest).forM auditDocument =
      auditDocument document >>= fun _ => rest.forM auditDocument from rfl]
    rw [perform_bind, hdone, List.flatMap_cons, ← Session.printed_printed]
    exact hrest

/-- Every document that is not done gets one report under its identifier, in order, and what is done
stays what it was. -/
theorem perform_forM_stored {documents : List Value}
    (h : (documents.forM auditDocument).perform s = (.ok (), s')) :
    ∃ stored : List (Value × Value),
      s'.store.documents Report.storedReports = s.store.documents Report.storedReports ++
        stored.map (fun (id, content) => Report.document id content) ∧
      (documents.filter fun document => !isDone s.store document).map
        (fun document => document.field "_id") = stored.map (fun (id, _) => .ok id) := by
  induction documents generalizing s with
  | nil =>
    obtain ⟨-, rfl⟩ := perform_pure_ok.mp h
    exact ⟨[], by simp⟩
  | cons document rest ih =>
    obtain ⟨s₁, hfirst, hrest⟩ := forM_cons_ok.mp h
    -- the invariant: no document fills the collection that says what is done
    have hsame : s₁.store.documents results = s.store.documents results := by
      have hwithin := within_auditDocument document s
      rw [hfirst] at hwithin
      exact hwithin.documents_eq (by decide)
    obtain ⟨stored, hstored, hids⟩ := ih hrest
    simp only [isDone_congr hsame] at hids
    cases hdone : isDone s.store document with
    | true =>
      rw [perform_auditDocument_done hdone] at hfirst
      obtain ⟨-, rfl⟩ := Prod.mk.inj hfirst
      exact ⟨stored, hstored, by simp [hdone, hids]⟩
    | false =>
      obtain ⟨id, content, hid, hnew⟩ := perform_auditDocument_pending hdone hfirst
      refine ⟨(id, content) :: stored, ?_, ?_⟩
      · rw [hstored, hnew, List.append_assoc, List.singleton_append, List.map_cons]
      · simp [hdone, hids, hid]

/-! ## One run -/

/-- A run finds its size, prints the heading, and goes through the documents it chooses.  It ends
before the heading if the size is too long to be shown. -/
theorem perform_run (settings : Entries) (s : Session) :
    (run settings).perform s =
      match size settings s.store with
      | .error failure => (.error failure, s)
      | .ok count =>
        if count.isShowable then
          (check (countOf count) >>= fun n =>
            (limited n (s.store.documents sources)).forM auditDocument).perform
              (s.printed (heading count))
        else (.error .longInteger, s) := by
  unfold run size
  rw [perform_check_bind]
  cases Report.setting "count" settings with
  | error failure => rfl
  | ok asked =>
    show ((check (Value.shown (if asked.equal (.int 0) then _ else asked))) >>= _).perform s =
      if (if asked.equal (.int 0) then _ else asked).isShowable then _ else _
    generalize (if asked.equal (.int 0) then .int (s.store.documents sources).length else asked) =
      count
    rw [perform_check_bind]
    cases hshown : count.isShowable with
    | true =>
      rw [Value.shown_of_isShowable hshown, if_pos rfl]
      rfl
    | false =>
      rw [Value.shown_of_not_isShowable hshown, if_neg Bool.false_ne_true]

/-- A run returns exactly when its size can be shown, it can choose documents, and it goes through
all of them. -/
theorem perform_run_ok :
    (run settings).perform s = (.ok (), s') ↔
      ∃ count documents, size settings s.store = .ok count ∧ count.isShowable = true ∧
        chosen settings s.store = .ok documents ∧
        (documents.forM auditDocument).perform (s.printed (heading count)) = (.ok (), s') := by
  rw [perform_run]
  unfold chosen
  cases hsize : size settings s.store with
  | error failure =>
    constructor
    · intro h
      cases h
    · rintro ⟨count, documents, hcount, -⟩
      cases hcount
  | ok count =>
    simp only [perform_check_bind]
    constructor
    · intro h
      split at h
      case isFalse => cases h
      case isTrue hshown =>
        cases hn : countOf count with
        | error failure => rw [hn] at h; cases h
        | ok n =>
          rw [hn] at h
          exact ⟨count, _, rfl, hshown, bind_ok.mpr ⟨count, rfl, bind_ok.mpr ⟨n, hn, rfl⟩⟩, h⟩
    · rintro ⟨count', documents, hcount, hshown, hchosen, hrun⟩
      cases hcount
      obtain ⟨_, hcount, hchosen⟩ := bind_ok.mp hchosen
      cases hcount
      obtain ⟨n, hn, hlimited⟩ := bind_ok.mp hchosen
      rw [pure_ok] at hlimited
      rw [← hlimited] at hrun
      rw [if_pos hshown, hn]
      exact hrun

/-- A run has the same size as the one before it. -/
theorem size_after_run (hrun : (run settings).perform s = (.ok (), s')) :
    size settings s'.store = size settings s.store := by
  have hwithin := within_run settings s
  rw [hrun] at hwithin
  unfold size
  rw [hwithin.documents_eq (show sources ∉ filled by decide)]

/-- A run chooses the same documents as the one before it. -/
theorem chosen_after_run (hrun : (run settings).perform s = (.ok (), s')) :
    chosen settings s'.store = chosen settings s.store := by
  have hwithin := within_run settings s
  rw [hrun] at hwithin
  unfold chosen
  rw [size_after_run hrun, hwithin.documents_eq (show sources ∉ filled by decide)]

/-- What is done depends on a collection that no run fills, so a run finds the same to do as the one
before it. -/
theorem pending_after_run (hrun : (run settings).perform s = (.ok (), s')) :
    pending settings s'.store = pending settings s.store := by
  have hwithin := within_run settings s
  rw [hrun] at hwithin
  have hresults := hwithin.documents_eq (show results ∉ filled by decide)
  unfold pending
  rw [chosen_after_run hrun]
  simp only [isDone_congr hresults]

theorem pending_eq_of_chosen {documents : List Value}
    (h : chosen settings s.store = .ok documents) :
    pending settings s.store = documents.filter fun document => !isDone s.store document := by
  unfold pending
  rw [h]
  rfl

/-- A run without pending documents is quiet. -/
theorem quiet_of_pending_nil {count : Value} {documents : List Value}
    (hsize : size settings s.store = .ok count) (hshown : count.isShowable = true)
    (hchosen : chosen settings s.store = .ok documents) (h : pending settings s.store = []) :
    Quiet settings s := by
  refine ⟨count, documents, hsize, hchosen,
    perform_run_ok.mpr ⟨count, documents, hsize, hshown, hchosen, ?_⟩⟩
  rw [pending_eq_of_chosen hchosen] at h
  rw [← Session.printed_printed]
  apply perform_forM_done
  intro document hdocument
  have hnot := List.filter_eq_nil_iff.mp h document hdocument
  simpa using hnot

/-- A run stores one report of every pending document, whatever has been stored before. -/
theorem reportsOf_after_run (hrun : (run settings).perform s = (.ok (), s')) (id : Value) :
    reportsOf s'.store id =
      reportsOf s.store id + (pending settings s.store).countP (hasId id) := by
  obtain ⟨count, documents, -, -, hchosen, hrun⟩ := perform_run_ok.mp hrun
  obtain ⟨stored, hstored, hids⟩ := perform_forM_stored hrun
  -- both numbers are counted over the identifiers of what was stored
  have hreports : (stored.map fun (found, content) => Report.document found content).countP
      (Store.matchesField "wfID" id) = stored.countP fun (found, _) => found.equal id :=
    List.countP_map
  have hpending : (pending settings s.store).countP (hasId id) =
      stored.countP fun (found, _) => found.equal id :=
    calc (pending settings s.store).countP (hasId id)
        = ((pending settings s.store).map fun document => document.field "_id").countP (isId id) :=
          List.countP_map.symm
      _ = (stored.map fun (found, _) => .ok found).countP (isId id) := by
          rw [pending_eq_of_chosen hchosen]
          exact congrArg _ hids
      _ = stored.countP fun (found, _) => found.equal id := List.countP_map
  unfold reportsOf
  rw [hstored, List.countP_append, hreports, hpending, Session.store_printed]

/-- Every run in a row stores one more report of every document that was pending at first. -/
theorem reportsOf_after_repeated {n : Nat} (hrun : (repeated settings n).perform s = (.ok (), s'))
    (id : Value) :
    reportsOf s'.store id =
      reportsOf s.store id + n * (pending settings s.store).countP (hasId id) := by
  induction n generalizing s with
  | zero =>
    obtain ⟨-, rfl⟩ := perform_pure_ok.mp hrun
    rw [Nat.zero_mul, Nat.add_zero]
  | succ n ih =>
    obtain ⟨_, s₁, hfirst, hrest⟩ := perform_bind_ok.mp hrun
    rw [ih hrest, reportsOf_after_run hfirst, pending_after_run hfirst, Nat.succ_mul]
    omega

/-- A run that stores no report had no pending document. -/
theorem pending_nil_of_quiet (h : Quiet settings s) : pending settings s.store = [] := by
  obtain ⟨count, documents, -, hchosen, hrun⟩ := h
  obtain ⟨count', documents', -, -, hchosen', hdocuments⟩ := perform_run_ok.mp hrun
  have hsame : documents' = documents := Except.ok.inj (hchosen'.symm.trans hchosen)
  obtain ⟨stored, hstored, hids⟩ := perform_forM_stored hdocuments
  -- a quiet run leaves the store as it was
  have hnone : stored = [] := by
    simpa using hstored
  rw [hnone, List.map_nil, List.map_eq_nil_iff, hsame] at hids
  rw [pending_eq_of_chosen hchosen]
  exact hids

/-- **A second run is quiet exactly when the first had nothing to do.**  After a run that returned,
the next one does nothing but say that every chosen document is done if and only if no chosen
document was pending at first.  Every other document gets one more report from each run that
returns: after `n` further runs the stored reports of an identifier have grown by `n + 1` for each
pending document of that identifier. -/
theorem rerun_quiet_iff_nothing_pending (hrun : (run settings).perform s = (.ok (), s')) :
    (Quiet settings s' ↔ pending settings s.store = []) ∧
      ∀ n s'', (repeated settings n).perform s' = (.ok (), s'') → ∀ id,
        reportsOf s''.store id =
          reportsOf s.store id + (n + 1) * (pending settings s.store).countP (hasId id) := by
  have hpending := pending_after_run hrun
  refine ⟨⟨fun h => ?_, fun h => ?_⟩, fun n s'' hmore id => ?_⟩
  · rw [← hpending]
    exact pending_nil_of_quiet h
  · obtain ⟨count, documents, hsize, hshown, hchosen, -⟩ := perform_run_ok.mp hrun
    exact quiet_of_pending_nil ((size_after_run hrun).trans hsize) hshown
      ((chosen_after_run hrun).trans hchosen) (hpending.trans h)
  · -- the first run and the further ones are `n + 1` runs in a row
    have hall : (repeated settings (n + 1)).perform s = (.ok (), s'') :=
      perform_bind_ok.mpr ⟨(), s', hrun, hmore⟩
    exact reportsOf_after_repeated hall id

/-! ### A batch of one document -/

/-- A document without workflows. -/
def emptySource : Value :=
  .record [("_id", .text "id1"), ("name", .text "own/repo"), ("workflows", .plainList [])]

/-- A store that holds one document, which is not done. -/
def oneSource : Session := { store := [(sources, [emptySource])] }

/-- The settings that ask for one document. -/
def takeOne : Entries := [(.text "count", .int 1)]

/-- The law at a batch with one pending document: the first run returns, the second is not quiet,
and the two of them store two reports under one identifier. -/
theorem rerun_of_one_source :
    (run takeOne).perform oneSource = (.ok (), ((run takeOne).perform oneSource).2) ∧
      ¬ Quiet takeOne ((run takeOne).perform oneSource).2 ∧
      reportsOf ((repeated takeOne 1).perform ((run takeOne).perform oneSource).2).2.store
        (.text "id1") = 2 := by
  have hrun : (run takeOne).perform oneSource = (.ok (), ((run takeOne).perform oneSource).2) := rfl
  have hpending : pending takeOne oneSource.store = [emptySource] := rfl
  obtain ⟨hquiet, hstored⟩ := rerun_quiet_iff_nothing_pending hrun
  refine ⟨hrun, fun h => ?_, hstored 1 _ rfl (.text "id1")⟩
  rw [hquiet, hpending] at h
  cases h

/-- A second run does not find the document of the first run done: it returns and stores its report
again. -/
theorem second_run_stores_again :
    ∃ s₁ s₂, (run takeOne).perform oneSource = (.ok (), s₁) ∧
      (run takeOne).perform s₁ = (.ok (), s₂) ∧
      s₁.store.documents Report.storedReports = [Report.document (.text "id1") (.map .plain [])] ∧
      s₂.store.documents Report.storedReports =
        [Report.document (.text "id1") (.map .plain []),
         Report.document (.text "id1") (.map .plain [])] :=
  ⟨_, _, rfl, rfl, rfl, rfl⟩

end Batch

end WorkflowAudit
