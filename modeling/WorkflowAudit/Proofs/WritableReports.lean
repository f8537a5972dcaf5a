import WorkflowAudit.Proofs.Assessment
import WorkflowAudit.Proofs.JsonValues

/-! # Reports that can be written

Workflows that were read from JSON, or saved after extraction, are made of JSON.  What a report
takes from such a workflow is JSON again, or, for the name of the workflow, a scalar that can be a
key.  So the report of such workflows has a JSON text, whatever the tags are, unless an integer in
it is too long (`writable_of_assessAll` and `Writable.hasForm`).
-/
namespace WorkflowAudit

/-! ## Reports made of JSON -/

/-- An issue names its job by JSON. -/
def Issue.IsJson : Issue → Prop
  | .exposure _ _ => True
  | .about job _ => job.IsJson

/-- An entry has JSON for its trigger and its issues. -/
structure WorkflowReport.IsJson (entry : WorkflowReport) : Prop where
  type : entry.trigger.1.IsJson
  rank : entry.trigger.2.IsJson
  issues : ∀ issue ∈ entry.issues, issue.IsJson

/-- The report of a file can be written. -/
def FileReport.Writable (report : FileReport) : Prop :=
  ∀ entry ∈ report, Json.IsKey entry.1 ∧ entry.2.IsJson

/-- A report can be written. -/
def Report.Writable (report : Report) : Prop :=
  ∀ entry ∈ report, Json.IsKey entry.1 ∧ FileReport.Writable entry.2

theorem Issue.toValue_isJson (wording : Label → String) {issue : Issue} (h : issue.IsJson) :
    (issue.toValue wording).IsJson := by
  cases issue with
  | exposure names line => simp [Issue.toValue, Value.ofChars]
  | about job label =>
    have hjob : job.IsJson := h
    simp [Issue.toValue, hjob]

theorem WorkflowReport.toValue_isJson (wording : Label → String) {entry : WorkflowReport}
    (h : entry.IsJson) : (entry.toValue wording).IsJson := by
  have hissues : ∀ issue ∈ entry.issues, (issue.toValue wording).IsJson := fun issue hissue =>
    Issue.toValue_isJson wording (h.issues issue hissue)
  simpa [WorkflowReport.toValue, h.type, h.rank] using hissues

/-- A report that can be written has a JSON text, in whatever words its labels are put, unless an
integer in it is too long. -/
theorem Report.Writable.hasForm (wording : Label → String) {report : Report}
    (h : Report.Writable report) : Json.HasForm (Report.toValue wording report) := by
  refine Json.hasForm_map fun entry hentry => ?_
  obtain ⟨⟨file, workflows⟩, hfile, rfl⟩ := List.mem_map.mp hentry
  obtain ⟨hkey, hworkflows⟩ := h _ hfile
  refine ⟨hkey, Json.hasForm_map fun entry hentry => ?_⟩
  obtain ⟨⟨name, found⟩, hfound, rfl⟩ := List.mem_map.mp hentry
  obtain ⟨hname, hjson⟩ := hworkflows _ hfound
  exact ⟨hname, Json.hasForm_of_isJson (WorkflowReport.toValue_isJson wording hjson)⟩

/-- What is in a file once a value was written to it: the text of the value, or nothing if an
integer in it is too long. -/
def Report.textLeft (content : Value) : List Char :=
  if content.isShowable then Json.encoded content else []

/-- A value that has a text unless an integer is too long: if one is, the file is emptied and the
run fails. -/
theorem Report.perform_writeValue_of_hasForm {content : Value} (h : Json.HasForm content)
    (path : String) (s : Session) :
    (writeValue path content).perform s =
      match s.files.writeText path (textLeft content) with
      | .ok written => (if content.isShowable then .ok () else .error .longInteger,
          { s with files := written })
      | .error problem => (.error problem, s) := by
  rw [perform_writeValue, textLeft, h]
  cases content.isShowable with
  | true => exact Audit.perform_writeText path _ s
  | false => rfl

/-- Whether an integer in a report is too long does not depend on the words of its labels. -/
theorem Report.isShowable_toValue (wording wording' : Label → String) (report : Report) :
    (Report.toValue wording report).isShowable = (Report.toValue wording' report).isShowable := by
  have hissue : ∀ issue : Issue,
      (issue.toValue wording).isShowable = (issue.toValue wording').isShowable := by
    rintro (_ | _) <;> rfl
  have hentry : ∀ entry : WorkflowReport,
      (entry.toValue wording).isShowable = (entry.toValue wording').isShowable := by
    intro entry
    rw [Bool.eq_iff_iff]
    simp [WorkflowReport.toValue, hissue]
  exact Value.isShowable_map_congr report fun workflows =>
    Value.isShowable_map_congr workflows hentry

/-! ## What is read off a workflow made of JSON -/

namespace Findings

/-- Going through the steps of a workflow keeps what each visit keeps; jobs are named by JSON. -/
theorem foldSteps_ok_induct {α : Type} {visit : α → Value → Value → Except Failure α} {P : α → Prop}
    {workflow : Value} {start result : α} (hjson : workflow.IsJson)
    (hvisit : ∀ found job step found', job.IsJson → visit found job step = .ok found' → P found →
      P found')
    (h : foldSteps visit start workflow = .ok result) (hstart : P start) : P result := by
  obtain ⟨jobs, hjobs, h⟩ := bind_ok.mp h
  obtain ⟨items, hitems, h⟩ := bind_ok.mp h
  refine foldlM_ok_induct (fun found job found' hjob hvisited hfound => ?_) h hstart
  have hname : job.1.IsJson := (hjson.itemNamed hjobs).indexed hitems job hjob
  obtain ⟨source, -, hvisited⟩ := bind_ok.mp hvisited
  obtain ⟨steps, -, hvisited⟩ := bind_ok.mp hvisited
  obtain ⟨items, -, hvisited⟩ := bind_ok.mp hvisited
  exact foldlM_ok_induct (fun found step found' _ hstep hfound =>
    hvisit found job.1 step found' hname hstep hfound) hvisited hfound

/-- The jobs that use actions are named by JSON. -/
theorem isJson_of_actionUses {workflow : Value} {uses : List ActionUse} (hjson : workflow.IsJson)
    (h : actionUses workflow = .ok uses) : ∀ use ∈ uses, use.job.IsJson := by
  refine foldSteps_ok_induct (P := fun uses : List ActionUse => ∀ use ∈ uses, use.job.IsJson) hjson
    (fun found job step found' hjob hvisit hfound => ?_) h (List.forall_mem_nil _)
  obtain ⟨security, -, hvisit⟩ := bind_ok.mp hvisit
  split at hvisit
  · obtain ⟨flag, -, hvisit⟩ := bind_ok.mp hvisit
    split at hvisit
    · obtain rfl := pure_ok.mp hvisit
      exact hfound
    · obtain ⟨used, -, hvisit⟩ := bind_ok.mp hvisit
      obtain rfl := pure_ok.mp hvisit
      intro use huse
      rcases List.mem_append.mp huse with huse | huse
      · exact hfound use huse
      · obtain rfl := List.mem_singleton.mp huse
        exact hjob
  · obtain rfl := pure_ok.mp hvisit
    exact hfound

/-- The jobs that have permissions, or lack them, are named by JSON. -/
theorem isJson_of_permissions {workflow : Value} {found : Permissions} (hjson : workflow.IsJson)
    (h : permissions workflow = .ok found) : ∀ entry ∈ found.jobs, entry.1.IsJson := by
  obtain ⟨own, -, h⟩ := bind_ok.mp h
  obtain ⟨jobs, hjobs, h⟩ := bind_ok.mp h
  obtain ⟨items, hitems, h⟩ := bind_ok.mp h
  obtain ⟨entries, hentries, h⟩ := bind_ok.mp h
  obtain rfl := pure_ok.mp h
  intro entry hentry
  obtain ⟨job, hjob, hstep⟩ := Entries.exists_mem_of_forall₂ (mapM_ok.mp hentries).flip hentry
  have hname : job.1.IsJson := (hjson.itemNamed hjobs).indexed hitems job hjob
  obtain ⟨source, -, hstep⟩ := bind_ok.mp hstep
  obtain ⟨granted, -, hstep⟩ := bind_ok.mp hstep
  obtain rfl := pure_ok.mp hstep
  exact hname

end Findings

namespace Report

/-- The issues of a workflow made of JSON name their jobs by JSON, whatever the tags are. -/
theorem isJson_of_mem_issues {workflow : Value} {r : Reading} (hjson : workflow.IsJson)
    (hreads : Reads workflow r) (tags : Value) : ∀ issue ∈ r.issues tags, issue.IsJson := by
  intro issue hissue
  cases issue with
  | exposure names line => trivial
  | about job label =>
    show job.IsJson
    unfold Reading.issues at hissue
    rw [List.mem_append, List.mem_append] at hissue
    rcases hissue with (hexposed | hpermission) | huse
    · rcases exposures_ok hreads.exposed with ⟨-, hnone⟩ | ⟨run, rest, flagged, value, line,
        -, -, -, -, htwo⟩
      · rw [hnone] at hexposed
        cases hexposed
      · simp [htwo] at hexposed
    · obtain ⟨⟨job', granted⟩, hentry, he⟩ := List.mem_map.mp hpermission
      cases he
      exact Findings.isJson_of_permissions hjson hreads.permissions _
        (List.mem_of_mem_filter hentry)
    · obtain ⟨use, hmem, huse⟩ := List.mem_flatMap.mp huse
      have hjob := Findings.isJson_of_actionUses hjson hreads.uses use hmem
      unfold useIssues at huse
      split at huse
      · obtain ⟨label', -, he⟩ := List.mem_map.mp huse
        cases he
        exact hjob
      · cases huse

/-- The triggers of a workflow made of JSON are JSON. -/
theorem isJson_of_eventList {events : Value} {list : List Value} (hjson : events.IsJson)
    (h : eventList events = .ok list) : ∀ event ∈ list, event.IsJson := by
  cases events with
  | map kind entries =>
    obtain rfl := pure_ok.mp h
    exact List.forall_mem_singleton.mpr hjson
  | _ => exact hjson.items h

theorem writable_of_enter {name events : Value} {before entered : FileReport} (hname : name.IsJson)
    (hevents : events.IsJson) (hbefore : FileReport.Writable before)
    (h : enter name events before = .ok entered) : FileReport.Writable entered := by
  obtain ⟨list, hlist, ⟨-, rfl⟩ | ⟨trigger, last, hlast, ⟨htype, hrank⟩, hkey, rfl⟩⟩ := enter_ok h
  · exact hbefore
  · have hevent : last.IsJson := isJson_of_eventList hevents hlist last (List.mem_of_getLast? hlast)
    exact Entries.forall_mem_insert hbefore (Json.isKey_of_isJson hname hkey)
      ⟨hevent.field htype, hevent.field hrank, List.forall_mem_nil _⟩

theorem writable_of_addIssues {name : Value} {issues : List Issue} {entered after : FileReport}
    (hname : name.IsJson) (hissues : ∀ issue ∈ issues, issue.IsJson)
    (hentered : FileReport.Writable entered) (h : addIssues name issues entered = .ok after) :
    FileReport.Writable after := by
  cases issues with
  | nil =>
    obtain rfl := pure_ok.mp h
    exact hentered
  | cons issue rest =>
    obtain ⟨entry, hkey, hlookup, rfl⟩ := addIssues_cons_ok.mp h
    obtain ⟨k, hmem⟩ := Entries.mem_of_lookup? hlookup
    obtain ⟨-, htype, hrank, hold⟩ := hentered _ hmem
    refine Entries.forall_mem_insert hentered (Json.isKey_of_isJson hname hkey) ⟨htype, hrank, ?_⟩
    exact List.forall_mem_append.mpr ⟨hold, hissues⟩

/-- A workflow made of JSON leaves the report of its file one that can be written. -/
theorem writable_of_assess {tags workflow : Value} {before after : FileReport}
    (hjson : workflow.IsJson) (hbefore : FileReport.Writable before)
    (h : assess tags before workflow = .ok after) : FileReport.Writable after := by
  obtain ⟨r, entered, hreads, hentered, hadded, -⟩ := assess_ok h
  have hname : r.name.IsJson := hjson.field hreads.name
  have hevents : r.events.IsJson := hjson.field hreads.events
  exact writable_of_addIssues hname (isJson_of_mem_issues hjson hreads tags)
    (writable_of_enter hname hevents hbefore hentered) hadded

theorem writable_of_assessFile {tags listed : Value} {report : FileReport}
    (hjson : ∀ workflows, listed.items = .ok workflows → ∀ workflow ∈ workflows, workflow.IsJson)
    (h : assessFile tags listed = .ok report) : FileReport.Writable report := by
  obtain ⟨workflows, hitems, h⟩ := bind_ok.mp h
  exact foldlM_ok_induct (fun before workflow after hworkflow hassess hbefore =>
    writable_of_assess (hjson workflows hitems workflow hworkflow) hbefore hassess) h
    (List.forall_mem_nil _)

/-- **The report of files made of JSON can be written**, whatever the tags are. -/
theorem writable_of_assessAll {tags files : Value} {report : Report} (hjson : files.IsJson)
    (h : assessAll tags files = .ok report) : Report.Writable report := by
  obtain ⟨names, hnames, h⟩ := bind_ok.mp h
  refine foldlM_ok_induct (fun found file found' hfile hstep hfound => ?_) h (List.forall_mem_nil _)
  obtain ⟨⟨⟩, hkey, hstep⟩ := bind_ok.mp hstep
  obtain ⟨entries, hentries, hstep⟩ := bind_ok.mp hstep
  obtain ⟨fileReport, hassess, hstep⟩ := bind_ok.mp hstep
  obtain rfl := pure_ok.mp hstep
  have hname : Json.IsKey file := Json.isKey_of_isJson (hjson.items hnames file hfile) hkey
  refine Entries.forall_mem_insert hfound hname (writable_of_assessFile ?_ hassess)
  intro workflows hworkflows
  cases hjson with
  | map _ hvalues =>
    obtain rfl := pure_ok.mp hentries
    cases hlisted : Entries.lookup? file _ with
    | none =>
      -- null stands for a file that is not listed, and has no items
      rw [hlisted] at hworkflows
      cases hworkflows
    | some listed =>
      rw [hlisted] at hworkflows
      exact (Value.isJson_of_lookup? hvalues hlisted).items hworkflows
  | _ => cases hentries

end Report

end WorkflowAudit
