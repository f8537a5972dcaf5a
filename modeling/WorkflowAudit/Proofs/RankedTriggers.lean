import WorkflowAudit.Proofs.BatchOrder
import WorkflowAudit.Proofs.Shapes

/-! # Triggers without a rank

Every trigger of a workflow is looked up in the table of ranks.  The table does not have all
triggers that there are, and a name that it lacks is an obstacle to extraction like any other: what
comes behind it is not extracted, and that is the jobs.  A batch then passes the workflow over.  The
only other obstacle before the jobs are permissions that cannot be turned into text.

`Extraction.complete_triggersOf` says when all triggers of a workflow have a rank, however it names
them, and `Extraction.perform_ofDocument` what that decides.  `unranked_triggers_hide_workflow`
follows it from the text to the groups of a batch: jobs that can be extracted are there, and the
batch hands the workflow on, exactly when every trigger has a rank and the permissions are no such
obstacle.
-/
namespace WorkflowAudit

open Audit

/-! ## Ranks -/

namespace Extraction

/-- A trigger has a rank. -/
def isRanked (name : String) : Bool := (ranks.lookup name).isSome

/-- The name of a trigger, which is a text. -/
def triggerName? : Value → Option String
  | .text name => some name
  | _ => none

/-- The names of the triggers of a workflow: one text, a list of texts, or a mapping with texts for
keys. -/
def triggerNames? : (on : Value) → Option (List String)
  | .text name => some [name]
  | .list _ names => names.mapM triggerName?
  | .map _ entries => (Entries.keys entries).mapM triggerName?
  | _ => none

theorem eq_map_of_triggerNames {names : List Value} {found : List String}
    (h : names.mapM triggerName? = some found) : names = found.map .text := by
  induction names generalizing found with
  | nil =>
    cases h
    rfl
  | cons name rest ih =>
    rw [List.mapM_cons] at h
    obtain ⟨first, hfirst, h⟩ := Option.bind_eq_some_iff.mp h
    obtain ⟨others, hothers, h⟩ := Option.bind_eq_some_iff.mp h
    cases h
    rw [List.map_cons, ← ih hothers]
    cases name with
    | text name =>
      cases hfirst
      rfl
    | _ => cases hfirst

theorem isSome_listedTriggers (names : List String) :
    (listedTriggers (names.map .text)).isSome = names.all isRanked := by
  unfold listedTriggers
  induction names with
  | nil => rfl
  | cons name rest ih =>
    rw [List.map_cons, List.mapM_cons, List.all_cons, ← ih]
    have hrank : isRanked name = (rank? (.text name)).isSome := rfl
    rw [hrank]
    cases rank? (.text name) with
    | none => rfl
    | some rank =>
      cases (rest.map Value.text).mapM
        fun name => (rank? name).map fun rank => (⟨name, rank, none⟩ : Trigger) <;> rfl

theorem complete_mappedTriggers {entries : Entries} {names : List String}
    (h : Entries.keys entries = names.map .text) :
    (mappedTriggers entries).2 = names.all isRanked := by
  induction entries generalizing names with
  | nil =>
    obtain rfl := List.map_eq_nil_iff.mp h.symm
    rfl
  | cons entry rest ih =>
    obtain ⟨key, content⟩ := entry
    obtain ⟨name, others, rfl, rfl, hrest⟩ := List.map_eq_cons_iff.mp h.symm
    rw [List.all_cons, ← ih hrest.symm, mappedTriggers, mappedTrigger?]
    have hrank : isRanked name = (rank? (.text name)).isSome := rfl
    rw [hrank]
    cases rank? (.text name) <;> rfl

/-- All triggers could be ranked exactly when every name has a rank. -/
theorem complete_triggersOf {on : Value} {names : List String} (h : triggerNames? on = some names) :
    (triggersOf on).2 = names.all isRanked := by
  cases on with
  | text name =>
    cases h
    have hrank : [name].all isRanked = (rank? (.text name)).isSome := Bool.and_true _
    rw [hrank, triggersOf]
    cases rank? (.text name) <;> rfl
  | list kind listed =>
    obtain rfl := eq_map_of_triggerNames h
    rw [← isSome_listedTriggers, triggersOf]
    cases listedTriggers (names.map .text) <;> rfl
  | map kind entries => exact complete_mappedTriggers (eq_map_of_triggerNames h)
  | _ => cases h

/-! ## What ranks decide -/

variable {s s' : Session}

/-- Extraction comes to the jobs of a document: all its triggers have a rank, and its permissions
can be turned into text. -/
def reachesJobs (source : Value) (names : List String) : Bool :=
  names.all isRanked && (source.under "permissions").isShowable

/-- What can be asked for its triggers is a mapping, and has a heading unless its permissions cannot
be turned into text. -/
theorem exists_headingOf {source : Value} {on : Option Value} (h : source.field? "on" = .ok on)
    (hlong : ¬ HasLongPermissions source) : ∃ heading, headingOf source = .ok heading := by
  cases hheading : headingOf source with
  | ok heading => exact ⟨heading, rfl⟩
  | error failure =>
    refine absurd ((isSome_name_iff hheading).mp ?_) hlong
    cases source with
    | map kind entries => rfl
    | _ => cases h

/-- Permissions that cannot be turned into text are an obstacle before everything else. -/
theorem perform_ofDocument_of_long {source : Value} (hlong : HasLongPermissions source)
    (s : Session) :
    (ofDocument source).perform s =
      (.ok ⟨(source.field "name").toOption, none, none, none⟩, s) := by
  have hnull : source.isNull = false := by
    cases source with
    | null => cases hlong
    | _ => rfl
  unfold ofDocument
  cases hheading : headingOf source with
  | ok heading => exact absurd hlong (not_hasLongPermissions hheading)
  | error failure =>
    simp only [hnull, Bool.false_eq_true, if_false]
    rfl

/-- Where the jobs of a document can be extracted, they are, but only behind a complete list of
triggers; otherwise nothing is done. -/
theorem perform_ofDocument {source on : Value} {heading : Heading}
    {found : List (Value × JobRecord)}
    (hheading : headingOf source = .ok heading) (hon : source.field? "on" = .ok (some on))
    (hjobs : (jobs (jobSources source) (.bool (source.under "if").isTruthy)).perform s =
      (.ok found, s')) :
    (ofDocument source).perform s =
      if (triggersOf on).2 then (.ok ⟨none, some heading, (triggersOf on).1, some found⟩, s')
      else (.ok ⟨none, some heading, (triggersOf on).1, none⟩, s) := by
  have hnull : source.isNull = false := by
    cases source with
    | null => cases hheading
    | _ => rfl
  unfold ofDocument
  simp only [hnull, Bool.false_eq_true, if_false, hheading, hon]
  rcases triggersOf on with ⟨triggers, complete⟩
  cases complete with
  | false => rfl
  | true =>
    rw [under_if_of_headingOf hheading] at hjobs
    have hcaught :
        (tryCatch (some <$> jobs (jobSources source) (.bool heading.conditional.isTruthy))
        fun _ => pure none).perform s = (.ok (some found), s') := by
      rw [perform_tryCatch, map_eq_pure_bind, perform_bind, hjobs]
      rfl
    exact perform_bind_ok.mpr ⟨some found, s', hcaught, rfl⟩

/-- So it is for a text. -/
theorem exists_workflow_of_jobs {text : String} {source on : Value} {names : List String}
    {found : List (Value × JobRecord)} (hload : Yaml.load text.toList = .ok source)
    (hon : source.field? "on" = .ok (some on)) (hnames : triggerNames? on = some names)
    (hjobs : (jobs (jobSources source) (.bool (source.under "if").isTruthy)).perform s =
      (.ok found, s')) :
    ∃ record, (workflow (.text text)).perform s =
        (.ok record, if reachesJobs source names then s' else s) ∧
      record.jobs = if reachesJobs source names then some found else none := by
  have hrun : (workflow (.text text)).perform s = (ofDocument source).perform s := by
    show (ofText text.toList).perform s = _
    rw [ofText, hload]
  rw [hrun]
  unfold reachesJobs
  cases hshown : (source.under "permissions").isShowable with
  | false =>
    rw [perform_ofDocument_of_long hshown, Bool.and_false]
    exact ⟨_, rfl, rfl⟩
  | true =>
    have hnot : ¬ HasLongPermissions source := fun hlong => by cases hshown.symm.trans hlong
    obtain ⟨heading, hheading⟩ := exists_headingOf hon hnot
    rw [perform_ofDocument hheading hon hjobs, complete_triggersOf hnames, Bool.and_true]
    cases names.all isRanked with
    | true => exact ⟨_, rfl, rfl⟩
    | false => exact ⟨_, rfl, rfl⟩

end Extraction

/-- What stands under the name for jobs in the value of a record. -/
theorem WorkflowRecord.field?_jobs (record : WorkflowRecord) :
    record.toValue.field? "jobs" = .ok (record.jobs.map jobsToValue) := by
  obtain ⟨loneName, heading, triggers, jobs⟩ := record
  cases loneName <;> cases heading <;> cases triggers <;> cases jobs <;> rfl

/-! ## What a batch hands on -/

namespace Batch

variable {s s' t t' : Session}

/-- The groups have a record, in a group of its file. -/
def InGroups (groups : List (Value × List WorkflowRecord)) (file : Value)
    (record : WorkflowRecord) :
    Prop :=
  ∃ group ∈ groups, group.1.equal file = true ∧ record ∈ group.2

/-- Items that are grouped by name are all there. -/
theorem ByName.mem {α : Type} {items : List (Value × α)} {groups : List (Value × List α)}
    (h : ByName items groups) {item : Value × α} (hitem : item ∈ items) :
    ∃ group ∈ groups, group.1.equal item.1 = true ∧ item.2 ∈ group.2 := by
  induction h with
  | nil => cases hitem
  | @cons first rest groups _ ih =>
    rcases List.mem_cons.mp hitem with rfl | hrest
    · exact ⟨_, List.mem_cons_self, Value.equal_refl _, List.mem_cons_self⟩
    · by_cases hequal : first.1.equal item.1 = true
      · have hmember : item.2 ∈ (rest.filter fun other => first.1.equal other.1).map (·.2) :=
          List.mem_map_of_mem (List.mem_filter.mpr ⟨hrest, hequal⟩)
        exact ⟨_, List.mem_cons_self, hequal, List.mem_cons_of_mem _ hmember⟩
      · obtain ⟨group, hgroup, hfound⟩ := ih (List.mem_filter.mpr ⟨hrest, by simp [hequal]⟩)
        exact ⟨group, List.mem_cons_of_mem _ hgroup, hfound⟩

/-- A record without jobs makes no difference to the groups. -/
theorem grouped_of_jobs_none {before after : List (Value × WorkflowRecord)} {file : Value}
    {record : WorkflowRecord} (h : record.jobs = none) :
    grouped (before ++ (file, record) :: after) = grouped (before ++ after) := by
  rw [grouped_eq, grouped_eq, List.foldlM_append, List.foldlM_append]
  refine bind_congr fun groups => ?_
  have hsame : addRecord groups (file, record) = pure groups := by
    rw [addRecord, h]
    rfl
  rw [List.foldlM_cons, hsame]
  rfl

/-- The items of a batch are extracted one after the other, so the record of one of them is what it
is extracted to in the session that those before it have left. -/
theorem exists_extractAll_split {earlier later : List Value} {item file : Value} {text : Value}
    {record : WorkflowRecord} {before records : List (Value × WorkflowRecord)}
    (hfile : item.itemNamed "name" = .ok file) (htext : item.itemNamed "yaml" = .ok text)
    (hrecord : (Extraction.workflow text).perform s = (.ok record, s'))
    (hbefore : (extractAll earlier).perform t = (.ok before, s))
    (hall : (extractAll (earlier ++ item :: later)).perform t = (.ok records, t')) :
    ∃ after, records = before ++ (file, record) :: after := by
  rw [extractAll_eq] at hbefore hall
  rw [List.mapM_append, List.mapM_cons] at hall
  obtain ⟨before', s₁, hbefore', hall⟩ := perform_bind_ok.mp hall
  obtain ⟨hsame, rfl⟩ := Prod.mk.inj (hbefore.symm.trans hbefore')
  obtain rfl := Except.ok.inj hsame
  obtain ⟨rest, s₂, hrest, hall⟩ := perform_bind_ok.mp hall
  obtain ⟨rfl, rfl⟩ := perform_pure_ok.mp hall
  obtain ⟨first, s₃, hfirst, hrest⟩ := perform_bind_ok.mp hrest
  obtain ⟨after, s₄, -, hrest⟩ := perform_bind_ok.mp hrest
  obtain ⟨rfl, rfl⟩ := perform_pure_ok.mp hrest
  have hitem : (extractItem item).perform s = (.ok (file, record), s') := by
    refine perform_bind_ok.mpr ⟨file, s, perform_check_ok.mpr ⟨hfile, rfl⟩, ?_⟩
    refine perform_bind_ok.mpr ⟨text, s, perform_check_ok.mpr ⟨htext, rfl⟩, ?_⟩
    exact perform_bind_ok.mpr ⟨record, s', hrecord, rfl⟩
  obtain ⟨hsame, -⟩ := Prod.mk.inj (hitem.symm.trans hfirst)
  obtain rfl := Except.ok.inj hsame
  exact ⟨after, rfl⟩

open Extraction in
/-- **A trigger without a rank hides a workflow.**  Let a text load as a mapping that names its
triggers by texts, and whose jobs can be extracted, in any session.  The workflow is extracted.  It
has jobs, and they are these, if all its triggers have a rank and its permissions can be turned into
text; if one of the triggers has no rank, or the permissions have a too long integer, then the
workflow has no jobs, and nothing was looked up for it.  And let a batch come to the workflow in
this session, and group what it has extracted.  In the first case the workflow is in a group of its
file, and in the second one the groups are what they would be without it. -/
theorem unranked_triggers_hide_workflow {text : String} {source on result : Value}
    {names : List String} (hload : Yaml.load text.toList = .ok source)
    (hon : source.field? "on" = .ok (some on)) (hnames : triggerNames? on = some names)
    (hjobs : (Operation.extractJobs (jobSources source)
      (.bool (source.under "if").isTruthy)).run.perform s = (.ok result, s')) :
    ∃ record : WorkflowRecord,
      (Operation.extractWorkflow (.text text)).run.perform s =
        (.ok record.toValue, if reachesJobs source names then s' else s) ∧
      record.toValue.field? "jobs" = .ok (if reachesJobs source names then some result else none) ∧
      ∀ earlier later item file before records groups t t', item.itemNamed "name" = .ok file →
        item.itemNamed "yaml" = .ok (.text text) →
        (extractAll earlier).perform t = (.ok before, s) →
        (extractAll (earlier ++ item :: later)).perform t = (.ok records, t') →
        grouped records = .ok groups →
        ∃ after, records = before ++ (file, record) :: after ∧
          if reachesJobs source names then InGroups groups file record
          else grouped (before ++ after) = .ok groups := by
  obtain ⟨found, s₁, hfound, hpure⟩ := perform_bind_ok.mp hjobs
  obtain ⟨rfl, rfl⟩ := perform_pure_ok.mp hpure
  obtain ⟨record, hrecord, hrecordJobs⟩ := exists_workflow_of_jobs hload hon hnames hfound
  refine ⟨record, perform_bind_ok.mpr ⟨record, _, hrecord, rfl⟩, ?_, ?_⟩
  · rw [record.field?_jobs, hrecordJobs]
    split <;> rfl
  · intro earlier later item file before records groups t t' hfile htext hbefore hall hgroups
    obtain ⟨after, rfl⟩ := exists_extractAll_split hfile htext hrecord hbefore hall
    refine ⟨after, rfl, ?_⟩
    split
    · rename_i hranked
      rw [if_pos hranked] at hrecordJobs
      have hmem : (file, record) ∈ withJobs (before ++ (file, record) :: after) :=
        List.mem_filter.mpr ⟨List.mem_append_right _ List.mem_cons_self, by simp [hrecordJobs]⟩
      exact (byName_grouped hgroups).mem hmem
    · rename_i hranked
      rw [if_neg hranked] at hrecordJobs
      rw [← hgroups, grouped_of_jobs_none hrecordJobs]

/-! ### A workflow that runs on a schedule and on a push -/

/-- A workflow with triggers, and a job whose permissions are declared. -/
def triggeredText (on : String) : String :=
  "\x7bname: wf, on: " ++ on ++ ", jobs: \x7bjob: \x7bpermissions: read-all\x7d\x7d\x7d"

open Extraction in
/-- The law at the two triggers, of which the first has no rank. -/
theorem scheduled_jobs_hidden :
    ∃ source on result s' record, Yaml.load (triggeredText "[schedule, push]").toList = .ok source ∧
      source.field? "on" = .ok (some on) ∧ triggerNames? on = some ["schedule", "push"] ∧
      (Operation.extractJobs (jobSources source)
        (.bool (source.under "if").isTruthy)).run.perform {} =
        (.ok result, s') ∧
      (Operation.extractWorkflow (.text (triggeredText "[schedule, push]"))).run.perform {} =
        (.ok (WorkflowRecord.toValue record), {}) ∧
      record.toValue.field? "jobs" = .ok none := by
  have hsource : (Yaml.load (triggeredText "[schedule, push]").toList).toOption.any (fun source =>
      ((source.field? "on").toOption.any fun on =>
          on.bind triggerNames? == some ["schedule", "push"]) &&
        ((Operation.extractJobs (jobSources source)
          (.bool (source.under "if").isTruthy)).run.perform {}).1.isOk) = true := by decide +kernel
  obtain ⟨source, hload, hsource⟩ := exists_ok_of_any hsource
  obtain ⟨hon, hjobs⟩ := Bool.and_eq_true_iff.mp hsource
  obtain ⟨found, hfield, hsame⟩ := exists_ok_of_any hon
  obtain ⟨on, rfl, hnames⟩ := Option.bind_eq_some_iff.mp (beq_iff_eq.mp hsame)
  obtain ⟨result, s', hjobs⟩ := exists_of_isOk hjobs
  obtain ⟨record, hrun, hlacks, -⟩ := unranked_triggers_hide_workflow hload hfield hnames hjobs
  exact ⟨source, on, result, s', record, hload, hfield, hnames, hjobs, hrun, hlacks⟩

/-- The workflow is missing from the report of a batch, and is there when it runs on a push
alone. -/
theorem workflow_lost_to_schedule :
    Value.equalItems (((run takeOne).perform
        (textSession (triggeredText "[schedule, push]") [] [])).2.store.documents
          Report.storedReports)
      [Report.document (.text "id1") (Report.toValue Label.description [])] = true ∧
    Value.equalItems (((run takeOne).perform
        (textSession (triggeredText "[push]") [] [])).2.store.documents Report.storedReports)
      [Report.document (.text "id1") (Report.toValue Label.description [(.text "ci.yml",
        [(.text "wf", ⟨(.text "push", .int 1), []⟩)])])] = true := by
  decide +kernel

end Batch

end WorkflowAudit
