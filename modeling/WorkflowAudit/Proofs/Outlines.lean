import WorkflowAudit.Proofs.BatchRuns
import WorkflowAudit.Proofs.Lookups

/-! # The outline of a stored report

The outline of a report are its files with the names of their workflows.  One might expect that it
can be told from the texts of a repository.  It cannot: a workflow whose extraction makes a lookup
that fails is left without jobs, and a batch passes it over without a word.

A *draft* is what a text says of a workflow that a report can have (`Batch.draft?`).  Whether the
report has it depends on the session in which its lookups are made (`Batch.verdicts`).  The outline
of a stored report is that of the drafts whose lookups all succeeded, and of no others; so two
reports of one document have the same outline where the same lookups succeed, and in particular
where all do (`outline_follows_lookups`).
-/
namespace WorkflowAudit

open Audit

/-- The files of a report and the names of the workflows of each. -/
abbrev Outline := List (Value × List Value)

namespace Report

variable {tags workflow : Value} {before after : FileReport}

/-! ## The names in a report -/

/-- The entries of a mapping; other values have none. -/
def entriesIn : Value → Entries
  | .map _ entries => entries
  | _ => []

/-- The outline of what was stored as a report. -/
def outline (content : Value) : Outline :=
  (entriesIn content).map fun found => (found.1, Entries.keys (entriesIn found.2))

/-- A report as it is built has the outline of its value. -/
theorem outline_toValue (wording : Label → String) (report : Report) :
    outline (Report.toValue wording report) =
      report.map fun found => (found.1, Entries.keys found.2) := by
  unfold outline Report.toValue Entries.keys
  simp only [entriesIn, List.map_map]
  refine List.map_congr_left fun found _ => ?_
  simp only [Function.comp_apply, List.map_map]
  rfl

/-- An assessed workflow brings its name if it has a trigger, and nothing else. -/
theorem keys_assess (h : assess tags before workflow = .ok after) :
    ∃ name events list, workflow.field "name" = .ok name ∧ workflow.field "events" = .ok events ∧
      eventList events = .ok list ∧ Entries.keys after =
        if list.isEmpty then Entries.keys before else Entries.addKey name
          (Entries.keys before) := by
  obtain ⟨r, entered, hreads, hentered, hadded, -⟩ := assess_ok h
  obtain ⟨list, hlist, hcases⟩ := enter_ok hentered
  refine ⟨r.name, r.events, list, hreads.name, hreads.events, hlist, ?_⟩
  rcases hcases with ⟨rfl, rfl⟩ | ⟨trigger, last, hlast, -, hkey, rfl⟩
  · -- without a trigger, issues go to an entry that is there already
    rw [List.isEmpty_nil, if_pos rfl]
    cases hissues : r.issues tags with
    | nil =>
      rw [hissues, addIssues_nil] at hadded
      rw [Except.ok.inj hadded]
    | cons issue rest =>
      rw [hissues] at hadded
      obtain ⟨entry, -, hfound, rfl⟩ := addIssues_cons_ok.mp hadded
      rw [Entries.keys_insert, Entries.addKey_of_lookup? hfound]
  · have hne : list.isEmpty = false := by
      cases list with
      | nil => cases hlast
      | cons event more => rfl
    rw [addIssues_insert hkey] at hadded
    rw [hne, ← Except.ok.inj hadded, Entries.keys_insert]
    rfl

end Report

/-! ## Drafts -/

/-- Whether there is a trigger at all. -/
def Triggers.isAny : Triggers → Bool
  | .single _ => true
  | .several triggers => !triggers.isEmpty

theorem Triggers.eventList_toValue (triggers : Triggers) :
    ∃ list, Report.eventList triggers.toValue = .ok list ∧ list.isEmpty = !triggers.isAny := by
  cases triggers with
  | single trigger => exact ⟨[trigger.toValue], rfl, rfl⟩
  | several triggers =>
    refine ⟨triggers.map Trigger.toValue, rfl, ?_⟩
    rw [List.isEmpty_map, isAny, Bool.not_not]

/-- What a report needs of a workflow to name it. -/
structure Draft where
  file : Value
  name : Value
  /-- Whether the workflow has a trigger; one without is not named. -/
  triggered : Bool

/-- The names of a file with that of one more workflow. -/
def Draft.addName (draft : Draft) (names : List Value) : List Value :=
  if draft.triggered then Entries.addKey draft.name names else names

/-- The outline with one more workflow. -/
def Draft.addTo (outline : Outline) (draft : Draft) : Outline :=
  Entries.insert draft.file (draft.addName ((Entries.lookup? draft.file outline).getD [])) outline

/-- The outline of some drafts. -/
def outlineOf (drafts : List Draft) : Outline :=
  drafts.foldl Draft.addTo []

/-- What a record says of a workflow, for a file. -/
def WorkflowRecord.draft (file : Value) (record : WorkflowRecord) : Draft where
  file := file
  name := (record.heading.map Heading.name).getD .null
  triggered := (record.triggers.map Triggers.isAny).getD false

/-- A record has all its parts. -/
structure WorkflowRecord.Complete (record : WorkflowRecord) : Prop where
  heading : record.heading.isSome = true
  triggers : record.triggers.isSome = true
  jobs : record.jobs.isSome = true

/-- The value of a record shows its name and its triggers. -/
theorem WorkflowRecord.Complete.field_toValue {record : WorkflowRecord} (h : record.Complete)
    (file : Value) :
    record.toValue.field "name" = .ok (record.draft file).name ∧
      ∃ events list, record.toValue.field "events" = .ok events ∧
        Report.eventList events = .ok list ∧ list.isEmpty = !(record.draft file).triggered := by
  obtain ⟨hheading, htriggers, -⟩ := h
  obtain ⟨heading, triggers, jobs⟩ := record
  obtain ⟨heading, rfl⟩ := Option.isSome_iff_exists.mp hheading
  obtain ⟨triggers, rfl⟩ := Option.isSome_iff_exists.mp htriggers
  obtain ⟨list, hlist, hempty⟩ := triggers.eventList_toValue
  exact ⟨rfl, triggers.toValue, list, rfl, hlist, hempty⟩

/-! ## The outline of groups -/

namespace Batch

variable {records : List (Value × WorkflowRecord)} {groups : List (Value × List WorkflowRecord)}

/-- The names of the workflows of a file, from their records. -/
def namesOf (records : List WorkflowRecord) : List Value :=
  records.foldl (fun names record => (record.draft .null).addName names) []

/-- The outline of grouped records. -/
def groupsOutline (groups : List (Value × List WorkflowRecord)) : Outline :=
  groups.map fun group => (group.1, namesOf group.2)

/-- The drafts of the records that have jobs. -/
def draftsOf (records : List (Value × WorkflowRecord)) : List Draft :=
  (records.filter fun (_, record) => record.jobs.isSome).map fun (file, record) => record.draft file

/-- The groups with one more record. -/
def addRecord (groups : List (Value × List WorkflowRecord)) (found : Value × WorkflowRecord) :
    Except Failure (List (Value × List WorkflowRecord)) :=
  if found.2.jobs.isNone then pure groups
  else do
    found.1.checkKey
    return Entries.insert found.1 ((Entries.lookup? found.1 groups).getD [] ++ [found.2]) groups

theorem grouped_eq (records : List (Value × WorkflowRecord)) :
    grouped records = records.foldlM addRecord [] := rfl

/-- A record without jobs is passed over; any other one goes to the end of its group. -/
theorem addRecord_ok {file : Value} {record : WorkflowRecord}
    {before after : List (Value × List WorkflowRecord)}
    (h : addRecord before (file, record) = .ok after) :
    record.jobs.isSome = false ∧ after = before ∨ record.jobs.isSome = true ∧
      after = Entries.insert file ((Entries.lookup? file before).getD [] ++ [record]) before := by
  unfold addRecord at h
  cases hjobs : record.jobs with
  | none =>
    rw [hjobs] at h
    exact .inl ⟨rfl, (pure_ok.mp h).symm⟩
  | some jobs =>
    rw [hjobs] at h
    obtain ⟨-, -, h⟩ := bind_ok.mp h
    exact .inr ⟨rfl, (pure_ok.mp h).symm⟩

/-- Grouping keeps the outline. -/
theorem groupsOutline_grouped (h : grouped records = .ok groups) :
    groupsOutline groups = outlineOf (draftsOf records) := by
  rw [grouped_eq] at h
  suffices hfold : ∀ start, records.foldlM addRecord start = .ok groups →
      groupsOutline groups = (draftsOf records).foldl Draft.addTo
        (groupsOutline start) from hfold [] h
  clear h
  induction records with
  | nil =>
    intro start h
    obtain rfl := pure_ok.mp h
    rfl
  | cons found rest ih =>
    intro start h
    obtain ⟨file, record⟩ := found
    obtain ⟨mid, hmid, hrest⟩ := foldlM_ok_cons.mp h
    rw [ih mid hrest]
    rcases addRecord_ok hmid with ⟨hjobs, rfl⟩ | ⟨hjobs, rfl⟩
    · have hdrafts : draftsOf ((file, record) :: rest) = draftsOf rest := by
        simp [draftsOf, hjobs]
      rw [hdrafts]
    · have hdrafts : draftsOf ((file, record) :: rest) = record.draft file :: draftsOf rest := by
        simp [draftsOf, hjobs]
      -- the names of a group grow by one, as those of its file in the outline do
      have hnames : ∀ old : List WorkflowRecord,
          namesOf (old ++ [record]) = (record.draft file).addName (namesOf old) := by
        intro old
        rw [namesOf, List.foldl_append]
        rfl
      have hfound : ((Entries.lookup? file start).map namesOf).getD [] =
          namesOf ((Entries.lookup? file start).getD []) := by
        cases Entries.lookup? file start <;> rfl
      rw [hdrafts, List.foldl_cons, Draft.addTo]
      unfold groupsOutline
      rw [Entries.map_insert, Entries.lookup?_map]
      show _ = List.foldl _ (Entries.insert file ((record.draft file).addName
        (((Entries.lookup? file start).map namesOf).getD [])) _) _
      rw [hfound, ← hnames]

theorem distinct_grouped (h : grouped records = .ok groups) : Entries.Distinct groups := by
  rw [grouped_eq] at h
  refine foldlM_ok_induct (P := Entries.Distinct) ?_ h .nil
  rintro found ⟨file, record⟩ found' - hstep hfound
  rcases addRecord_ok hstep with ⟨-, rfl⟩ | ⟨-, rfl⟩
  · exact hfound
  · exact Entries.distinct_insert hfound

/-- The groups have none but the records that have jobs. -/
theorem mem_grouped (h : grouped records = .ok groups) :
    ∀ group ∈ groups, ∀ record ∈ group.2, record.jobs.isSome = true ∧
      ∃ file, (file, record) ∈ records := by
  rw [grouped_eq] at h
  refine foldlM_ok_induct (P := fun groups => ∀ group ∈ groups, ∀ record ∈ group.2,
    record.jobs.isSome = true ∧ ∃ file, (file, record) ∈ records) ?_ h (List.forall_mem_nil _)
  rintro found ⟨file, record⟩ found' hmem hstep hfound
  rcases addRecord_ok hstep with ⟨-, rfl⟩ | ⟨hjobs, rfl⟩
  · exact hfound
  · have hold : ∀ other ∈ (Entries.lookup? file found).getD [], other.jobs.isSome = true ∧
        ∃ file, (file, other) ∈ records := by
      cases hlookup : Entries.lookup? file found with
      | none => exact List.forall_mem_nil _
      | some old =>
        obtain ⟨k, hk⟩ := Entries.mem_of_lookup? hlookup
        exact hfound (k, old) hk
    refine fun group hgroup => (Entries.forall_mem_insert (P := fun _ => True) (Q := fun rs =>
      ∀ record ∈ rs, record.jobs.isSome = true ∧ ∃ file, (file, record) ∈ records)
      (fun entry hentry => ⟨trivial, hfound entry hentry⟩) trivial ?_ group hgroup).2
    exact List.forall_mem_append.mpr ⟨hold, List.forall_mem_singleton.mpr ⟨hjobs, file, hmem⟩⟩

/-- The names in the report of a file are those of its records. -/
theorem keys_assembled {records : List WorkflowRecord} {before after : FileReport}
    (h : Report.Assembled before (records.map WorkflowRecord.toValue) after)
    (hrecords : ∀ record ∈ records, record.Complete) :
    Entries.keys after =
      records.foldl (fun names record => (record.draft .null).addName names)
        (Entries.keys before) := by
  induction records generalizing before with
  | nil =>
    cases h with
    | nil => rfl
  | cons record rest ih =>
    obtain ⟨hcomplete, hrest⟩ := List.forall_mem_cons.mp hrecords
    cases h with
    | cons hassess hassembled =>
      obtain ⟨name, events, list, hname, hevents, hlist, hkeys⟩ := Report.keys_assess hassess
      obtain ⟨hname', events', list', hevents', hlist', hempty⟩ := hcomplete.field_toValue .null
      obtain rfl := Except.ok.inj (hname'.symm.trans hname)
      obtain rfl := Except.ok.inj (hevents'.symm.trans hevents)
      obtain rfl := Except.ok.inj (hlist'.symm.trans hlist)
      rw [List.foldl_cons, ih hassembled hrest, hkeys, hempty, Draft.addName]
      cases (record.draft .null).triggered <;> rfl

/-- A report that is built of groups has their outline. -/
theorem outline_of_build {tagsFor : Value → Audit Value} {report : Report} {s s' : Session}
    (hdistinct : Entries.Distinct groups)
    (hrecords : ∀ group ∈ groups, ∀ record ∈ group.2, record.Complete)
    (h : (Report.build tagsFor (groupsToValue groups)).perform s = (.ok report, s')) :
    Report.outline (Report.toValue Label.description report) = groupsOutline groups := by
  have hdistinct' : Entries.Distinct (groups.map fun group =>
      (group.1, Value.plainList (group.2.map WorkflowRecord.toValue))) := by
    unfold Entries.Distinct Entries.keys
    rw [List.map_map]
    exact hdistinct
  have hfiles := (Report.build_ok hdistinct' h).forall₂ .nil
    (hdistinct'.keysDiffer fun _ _ hfound => hfound.1)
  rw [List.nil_append, List.forall₂_map_left_iff] at hfiles
  rw [Report.outline_toValue, groupsOutline]
  clear h hdistinct hdistinct'
  induction hfiles with
  | nil => rfl
  | @cons group found groups report hfile _ ih =>
    obtain ⟨hgroup, hgroups⟩ := List.forall_mem_cons.mp hrecords
    obtain ⟨hname, workflows, hitems, hassembled⟩ := hfile
    obtain rfl := pure_ok.mp hitems
    have hnames : Entries.keys found.2 = namesOf group.2 := keys_assembled hassembled hgroup
    have hfile : found.1 = group.1 := hname
    rw [List.map_cons, List.map_cons, ih hgroups, hfile, hnames]

/-! ## What lookups decide -/

variable {items : List Value} {s s' : Session}

/-- Extracts the workflow of an item. -/
def extractItem (item : Value) : Audit (Value × WorkflowRecord) := do
  let name ← Audit.check (item.itemNamed "name")
  let text ← Audit.check (item.itemNamed "yaml")
  return (name, ← Extraction.workflow text)

theorem extractAll_eq (items : List Value) : extractAll items = items.mapM extractItem := rfl

/-- The draft of an item, and the uses of actions that its extraction looks up. -/
def draft? (item : Value) : Option (Draft × List Value) := do
  let file ← (item.itemNamed "name").toOption
  let text ← (item.itemNamed "yaml").toOption
  (Extraction.sketch? text).map fun sketch =>
    (⟨file, sketch.heading.name, sketch.triggers.isAny⟩, sketch.uses)

/-- The drafts of some items. -/
def drafts (items : List Value) : List Draft :=
  items.flatMap fun item => ((draft? item).map (·.1)).toList

/-- The draft of an item, if it has one, and whether all its lookups succeed. -/
def verdict (item : Value) (s : Session) : List (Draft × Bool) :=
  ((draft? item).map fun found =>
    (found.1, ((Release.lookUpAll found.2).perform s).1.isOk)).toList

/-- The drafts of some items, each with whether all its lookups succeed.  The lookups of an item are
made in the session that the extraction of those before it has left. -/
def verdicts : List Value → Session → List (Draft × Bool)
  | [], _ => []
  | item :: rest, s => verdict item s ++ verdicts rest ((extractItem item).perform s).2

/-- The drafts whose lookups all succeed. -/
def answered (verdicts : List (Draft × Bool)) : List Draft :=
  (verdicts.filter (·.2)).map (·.1)

/-- What the drafts are can be told from the items alone. -/
theorem map_fst_verdicts (items : List Value) (s : Session) :
    (verdicts items s).map (·.1) = drafts items := by
  induction items generalizing s with
  | nil => rfl
  | cons item rest ih =>
    have hitem : (verdict item s).map (·.1) = ((draft? item).map (·.1)).toList := by
      unfold verdict
      cases draft? item <;> rfl
    rw [verdicts, List.map_append, ih, hitem]
    rfl

/-- An item has a complete record exactly when it has a draft whose lookups all succeed. -/
theorem draftsOf_extractItem {item file : Value} {record : WorkflowRecord}
    (h : (extractItem item).perform s = (.ok (file, record), s')) :
    draftsOf [(file, record)] = answered (verdict item s) ∧
      (record.jobs.isSome = true → record.Complete) := by
  obtain ⟨name, s₁, hcheck, h⟩ := perform_bind_ok.mp h
  obtain ⟨hname, rfl⟩ := perform_check_ok.mp hcheck
  obtain ⟨text, s₁, hcheck, h⟩ := perform_bind_ok.mp h
  obtain ⟨htext, rfl⟩ := perform_check_ok.mp hcheck
  obtain ⟨found, s₁, hworkflow, h⟩ := perform_bind_ok.mp h
  obtain ⟨hpair, rfl⟩ := perform_pure_ok.mp h
  obtain ⟨rfl, rfl⟩ := Prod.mk.inj hpair
  have hsketched := Extraction.sketched_of_workflow hworkflow
  have hdraft : draft? item = (Extraction.sketch? text).map fun sketch =>
      (⟨name, sketch.heading.name, sketch.triggers.isAny⟩, sketch.uses) := by
    unfold draft?
    rw [hname, htext]
    rfl
  unfold verdict
  rw [hdraft]
  cases hsketch : Extraction.sketch? text with
  | none =>
    rw [hsketch] at hsketched
    have hjobs : found.jobs = none := hsketched
    simp [draftsOf, answered, hjobs]
  | some sketch =>
    rw [hsketch] at hsketched
    obtain ⟨hheading, htriggers, hjobs⟩ := hsketched
    refine ⟨?_, fun h => ⟨by rw [hheading]; rfl, by rw [htriggers]; rfl, h⟩⟩
    cases hok : ((Release.lookUpAll sketch.uses).perform s).1.isOk with
    | true =>
      rw [hok] at hjobs
      simp [draftsOf, answered, hjobs, hok, WorkflowRecord.draft, hheading, htriggers]
    | false =>
      rw [hok] at hjobs
      simp [draftsOf, answered, hjobs, hok]

/-- The complete records of an extraction are those of the drafts whose lookups all succeed. -/
theorem draftsOf_extractAll (h : (extractAll items).perform s = (.ok records, s')) :
    draftsOf records = answered (verdicts items s) ∧
      ∀ found ∈ records, found.2.jobs.isSome = true → found.2.Complete := by
  rw [extractAll_eq] at h
  induction items generalizing s records with
  | nil =>
    obtain ⟨rfl, -⟩ := perform_pure_ok.mp h
    exact ⟨rfl, List.forall_mem_nil _⟩
  | cons item rest ih =>
    rw [List.mapM_cons] at h
    obtain ⟨⟨file, record⟩, s₁, hitem, h⟩ := perform_bind_ok.mp h
    obtain ⟨found, s₂, hrest, h⟩ := perform_bind_ok.mp h
    obtain ⟨rfl, rfl⟩ := perform_pure_ok.mp h
    obtain ⟨hfirst, hcomplete⟩ := draftsOf_extractItem hitem
    obtain ⟨hothers, hall⟩ := ih hrest
    refine ⟨?_, List.forall_mem_cons.mpr ⟨hcomplete, hall⟩⟩
    have hsplit : draftsOf ((file, record) :: found) = draftsOf [(file, record)] ++
        draftsOf found := by
      unfold draftsOf
      rw [← List.map_append, ← List.filter_append, List.singleton_append]
    rw [hsplit, hfirst, hothers, verdicts, hitem]
    unfold answered
    rw [List.filter_append, List.map_append]

/-! ## Stored reports -/

/-- A batch stores a report of a document: once the chosen documents before it were audited, which
leads to the session `turn`, it is not done, and its audit puts the report at the end of those
stored. -/
structure Stores (settings : Entries) (s : Session) (document : Value) (turn : Session)
    (content : Value) : Prop where
  reached : ∃ count earlier later, size settings s.store = .ok count ∧ count.isShowable = true ∧
    chosen settings s.store = .ok (earlier ++ document :: later) ∧
    (earlier.forM auditDocument).perform (s.printed (heading count)) = (.ok (), turn)
  pending : isDone turn.store document = false
  stored : ∃ id after, document.field "_id" = .ok id ∧
    (auditDocument document).perform turn = (.ok (), after) ∧
    after.store.documents Report.storedReports =
      turn.store.documents Report.storedReports ++ [Report.document id content]

/-- The outline of a stored report is that of the drafts whose lookups all succeed. -/
theorem outline_of_stores {settings : Entries} {document content : Value} {turn : Session}
    (h : Stores settings s document turn content) :
    ∃ items, itemsOf document = .ok items ∧
      Report.outline content = outlineOf (answered (verdicts items turn)) := by
  obtain ⟨id, after, hid, hrun, hafter⟩ := h.stored
  obtain ⟨id', repository, items, records, groups, content', s₁, hid', -, hitems, hextract, hgroups,
    hstore⟩ := perform_auditDocument_ok h.pending hrun
  obtain rfl := Except.ok.inj (hid.symm.trans hid')
  -- the report that was stored is the one that the audit came to
  have hsame : [Report.document id content] = [Report.document id content'] :=
    List.append_cancel_left (hafter.symm.trans (documents_of_stored hextract hstore))
  obtain rfl : content = content' := by
    simpa [Report.document, Value.record] using hsame
  obtain ⟨report, s₂, hbuild, rfl, -⟩ := Report.perform_store_ok.mp hstore
  obtain ⟨hdrafts, hcomplete⟩ := draftsOf_extractAll hextract
  refine ⟨items, hitems, ?_⟩
  rw [outline_of_build (distinct_grouped hgroups) (fun group hgroup record hrecord => ?_) hbuild,
    groupsOutline_grouped hgroups, hdrafts]
  obtain ⟨hjobs, file, hmem⟩ := mem_grouped hgroups group hgroup record hrecord
  exact hcomplete (file, record) hmem hjobs

/-- Verdicts on the same items that agree on what succeeds are the same. -/
theorem verdicts_ext {turn turn' : Session}
    (h : (verdicts items turn).map (·.2) = (verdicts items turn').map (·.2)) :
    verdicts items turn = verdicts items turn' := by
  rw [List.zip_of_prod (map_fst_verdicts items turn) h,
    ← List.zip_of_prod (map_fst_verdicts items turn') rfl]

/-- Where all lookups succeed, all drafts are answered. -/
theorem answered_of_all {turn : Session} (h : ∀ verdict ∈ verdicts items turn, verdict.2 = true) :
    answered (verdicts items turn) = drafts items := by
  unfold answered
  rw [List.filter_eq_self.mpr h, map_fst_verdicts]

/-- **The outline of a report follows the lookups.**  Let two batches, in any two sessions, each
store a report of the same document.  The outline of either report is that of the drafts whose
lookups all succeed, where the drafts can be told from the texts; a workflow with a lookup that
fails is lost.  So the two reports have the same files, with the same names, where the same lookups
succeed, whatever answers they get, and in particular where all do. -/
theorem outline_follows_lookups {settings settings' : Entries} {document content content' : Value}
    {turn turn' : Session} (h : Stores settings s document turn content)
    (h' : Stores settings' s' document turn' content') :
    ∃ items, itemsOf document = .ok items ∧
      Report.outline content = outlineOf (answered (verdicts items turn)) ∧
      Report.outline content' = outlineOf (answered (verdicts items turn')) ∧
      ((verdicts items turn).map (·.2) = (verdicts items turn').map (·.2) →
        Report.outline content = Report.outline content') ∧
      ((∀ verdict ∈ verdicts items turn, verdict.2 = true) →
        Report.outline content = outlineOf (drafts items)) := by
  obtain ⟨items, hitems, houtline⟩ := outline_of_stores h
  obtain ⟨items', hitems', houtline'⟩ := outline_of_stores h'
  obtain rfl := Except.ok.inj (hitems.symm.trans hitems')
  refine ⟨items, hitems, houtline, houtline', fun hsame => ?_, fun hall => ?_⟩
  · rw [houtline, houtline', verdicts_ext hsame]
  · rw [houtline, answered_of_all hall]

/-! ### One use of an action -/

/-- A document of a repository with one workflow, which uses an action. -/
def oneUse : Value :=
  .record [("_id", .text "id1"), ("name", .text "own/repo"), ("workflows", .plainList [.record
    [("name", .text "ci.yml"), ("yaml", .text ("\x7bname: wf, on: push, jobs: \x7bjob: " ++
      "\x7bpermissions: read-all, steps: [\x7buses: own/act@v2\x7d]\x7d\x7d\x7d"))]])]

/-- A session with the document and the tags of its repository, and with answers to come. -/
def oneUseSession (answers : List (String × List Answer)) : Session :=
  { store := [(sources, [oneUse]),
      (Release.tagsCache, [.record [("repo", .text "own/repo"), ("tags", .plainList [])]])],
    answers := answers }

/-- An answer that names the newest tag of the action. -/
def tagged (tag : String) : List (String × List Answer) :=
  [("/repos/own/act/releases/latest", [⟨200, "\x7b\"tag_name\": \"" ++ tag ++ "\"\x7d"⟩])]

/-- A session with a document that has one workflow text alone, with the tags of its repository, and
with answers to come. -/
def textSession (text : String) (tags : List Value) (answers : List (String × List Answer)) :
    Session :=
  { store := [(sources, [.record [("_id", .text "id1"), ("name", .text "own/repo"),
      ("workflows", .plainList [.record [("name", .text "ci.yml"), ("yaml", .text text)]])]]),
      (Release.tagsCache, [.record [("repo", .text "own/repo"), ("tags", .plainList tags)]])],
    answers := answers }

/-- A batch that comes to the document at once and audits it stores a report of it. -/
theorem stores_oneUse (answers : List (String × List Answer))
    (h : ((auditDocument oneUse).perform
      ((oneUseSession answers).printed (heading (.int 1)))).1.isOk = true) :
    ∃ content, Stores takeOne (oneUseSession answers) oneUse
      ((oneUseSession answers).printed (heading (.int 1))) content := by
  obtain ⟨⟨⟩, after, hrun⟩ := exists_of_isOk h
  obtain ⟨id, content, hid, hstored⟩ := perform_auditDocument_pending rfl hrun
  exact ⟨content, ⟨.int 1, [], [], rfl, rfl, rfl, rfl⟩, rfl, id, after, hid, hrun, hstored⟩

/-- The law at two answers: whether the action is up to date or not, the report names the
workflow. -/
theorem outline_for_either_tag :
    ∃ turn turn' content content',
      Stores takeOne (oneUseSession (tagged "v2")) oneUse turn content ∧
      Stores takeOne (oneUseSession (tagged "v3")) oneUse turn' content' ∧
      Report.outline content = Report.outline content' := by
  obtain ⟨content, hstores⟩ := stores_oneUse (tagged "v2") (by decide +kernel)
  obtain ⟨content', hstores'⟩ := stores_oneUse (tagged "v3") (by decide +kernel)
  obtain ⟨items, hitems, -, -, hsame, -⟩ := outline_follows_lookups hstores hstores'
  refine ⟨_, _, content, content', hstores, hstores', hsame ?_⟩
  obtain rfl := Except.ok.inj hitems
  decide +kernel

/-- A workflow is missing from the report of a session in which its lookup has no answer, and is
there in a session that differs in nothing but the answer. -/
theorem workflow_lost_without_answer :
    Value.equalItems (((run takeOne).perform (oneUseSession [])).2.store.documents
        Report.storedReports)
      [Report.document (.text "id1") (Report.toValue Label.description [])] = true ∧
    Value.equalItems (((run takeOne).perform (oneUseSession (tagged "v2"))).2.store.documents
        Report.storedReports)
      [Report.document (.text "id1") (Report.toValue Label.description [(.text "ci.yml",
        [(.text "wf", ⟨(.text "push", .int 1), [.about (.text "job") .notPinned]⟩)])])] = true := by
  decide +kernel

end Batch

end WorkflowAudit
