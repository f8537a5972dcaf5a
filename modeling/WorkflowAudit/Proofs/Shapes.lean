import WorkflowAudit.Proofs.Records

/-! # The shape of an extracted workflow

An extracted workflow is handed on as a value, and those who read it do not check what it looks
like. So its shape has to be right: its fields come in one of five layouts
(`WorkflowRecord.layouts`), and with the last of them, the one with jobs, it can be read by
everything that is there to read it.  One reader says what it reads, and ends at permissions, or at
the name of a job that has some, with an integer too long to be shown.

The first part is a matter of how far extraction went.  For the second,
`Findings.foldSteps_wholeValue` turns a walk over the value of a record into a walk over the record,
whose steps have their fields by their type; what is left to show of each reader is that it manages
a single step.

`extracted_workflow_shape` puts the two together, and says of the triggers and the jobs what in the
document they come from.
-/
namespace WorkflowAudit

open Audit

/-! ## Layouts -/

namespace WorkflowRecord

/-- The names of the fields of a workflow, by how far its extraction went. -/
def layouts : List (List String) :=
  [[],
   ["name"],
   ["name", "permissions", "conditional"],
   ["name", "permissions", "conditional", "events"],
   ["name", "permissions", "conditional", "events", "jobs"]]

/-- No part of a record is there without the one before it. -/
structure Layered (record : WorkflowRecord) : Prop where
  triggers : record.heading = none → record.triggers = none
  jobs : record.triggers = none → record.jobs = none

/-- Of a workflow nothing but its name was extracted. -/
def IsNameOnly (record : WorkflowRecord) : Prop :=
  record.heading = none ∧ record.loneName.isSome = true

/-- The fields of a layered record are in one of the layouts, and a field for jobs holds some. -/
theorem Layered.exists_fields {record : WorkflowRecord} (h : record.Layered) :
    ∃ fields, record.toValue = .record fields ∧ fields.map Prod.fst ∈ layouts ∧
      (fields.map Prod.fst = ["name"] ↔ record.IsNameOnly) ∧
      ("jobs" ∈ fields.map Prod.fst → record.jobs.isSome = true) := by
  obtain ⟨loneName, heading, triggers, jobs⟩ := record
  refine ⟨_, rfl, ?_⟩
  cases heading with
  | none =>
    obtain rfl : triggers = none := h.triggers rfl
    obtain rfl : jobs = none := h.jobs rfl
    cases loneName <;> simp [layouts, IsNameOnly]
  | some heading =>
    cases triggers with
    | none =>
      obtain rfl : jobs = none := h.jobs rfl
      simp [layouts, IsNameOnly]
    | some triggers => cases jobs <;> simp [layouts, IsNameOnly]

end WorkflowRecord

namespace Extraction

/-- The permissions of a document cannot be turned into text. -/
def HasLongPermissions (source : Value) : Prop :=
  (source.under "permissions").isShowable = false

/-- A heading has the text of the permissions. -/
theorem not_hasLongPermissions {source : Value} {heading : Heading}
    (h : headingOf source = .ok heading) : ¬ HasLongPermissions source := by
  obtain ⟨name, -, h⟩ := bind_ok.mp h
  obtain ⟨permissions, hpermissions, h⟩ := bind_ok.mp h
  obtain ⟨written, hwritten, -⟩ := bind_ok.mp h
  intro hlong
  rw [HasLongPermissions, Value.under_of_field hpermissions] at hlong
  rw [Value.represented_of_not_isShowable hlong] at hwritten
  cases hwritten

/-- Without a heading the name is left, if the document has fields, and then the permissions are to
blame. -/
theorem isSome_name_iff {source : Value} {failure : Failure}
    (h : headingOf source = .error failure) :
    (source.field "name").toOption.isSome = true ↔ HasLongPermissions source := by
  cases source with
  | map kind entries =>
    refine ⟨fun _ => ?_, fun _ => rfl⟩
    show Value.isShowable ((Entries.field? "permissions" entries).getD .null) = false
    by_contra hshown
    rw [Bool.not_eq_false] at hshown
    have hheading : headingOf (.map kind entries) = (Value.represented
        ((Entries.field? "permissions" entries).getD .null) >>= fun permissions =>
          .ok ⟨(Entries.field? "name" entries).getD .null, permissions,
            (Entries.field? "if" entries).getD .null⟩) := rfl
    rw [hheading, Value.represented_of_isShowable hshown] at h
    cases h
  | _ => exact ⟨fun hname => (by cases hname), fun hlong => (by cases hlong)⟩

/-- A document is always extracted, as far as it goes. -/
theorem exists_ofDocument (source : Value) (s : Session) :
    ∃ record s', (ofDocument source).perform s = (.ok record, s') ∧ record.Layered ∧
      (record.IsNameOnly ↔ HasLongPermissions source) := by
  have hheaded : ∀ {heading triggers jobs}, headingOf source = .ok heading →
      ((⟨none, some heading, triggers, jobs⟩ : WorkflowRecord).IsNameOnly ↔
        HasLongPermissions source) := fun hheading =>
    ⟨fun hname => (by cases hname.1), fun hlong => absurd hlong (not_hasLongPermissions hheading)⟩
  unfold ofDocument
  split
  · rename_i hnull
    obtain rfl := Value.eq_null_of_isNull hnull
    exact ⟨_, s, rfl, ⟨fun _ => rfl, fun _ => rfl⟩, fun h => (by cases h.2), fun h => (by cases h)⟩
  · split
    · rename_i heading on hheading hon
      split
      · exact ⟨_, s, rfl, ⟨fun h => (by cases h), fun _ => rfl⟩, hheaded hheading⟩
      · rename_i triggers htriggers
        obtain ⟨triggers, rfl⟩ := exists_triggers htriggers
        rw [perform_bind, perform_tryCatch]
        rcases (some <$> jobs _ _ : Audit _).perform s with ⟨outcome, s₁⟩
        -- jobs that could not be extracted are left out
        cases outcome with
        | ok found =>
          exact ⟨_, s₁, rfl, ⟨fun h => (by cases h), fun h => (by cases h)⟩, hheaded hheading⟩
        | error failure =>
          exact ⟨_, s₁, rfl, ⟨fun h => (by cases h), fun _ => rfl⟩, hheaded hheading⟩
    · rename_i heading _ hheading _
      exact ⟨_, s, rfl, ⟨fun _ => rfl, fun _ => rfl⟩, hheaded hheading⟩
    · rename_i failure _ hfails
      exact ⟨_, s, rfl, ⟨fun _ => rfl, fun _ => rfl⟩,
        fun h => (isSome_name_iff hfails).mp h.2, fun h => ⟨rfl, (isSome_name_iff hfails).mpr h⟩⟩

/-- So is a text, if loading it does not end in a failure that nobody catches. -/
theorem exists_workflow {text : String}
    (hload : ∀ cause, Yaml.load text.toList ≠ .error (.failure cause)) (s : Session) :
    ∃ record s', (workflow (.text text)).perform s = (.ok record, s') ∧ record.Layered ∧
      (record.IsNameOnly ↔ ∃ source, Yaml.load text.toList = .ok source ∧
        HasLongPermissions source) := by
  show ∃ record s', (ofText text.toList).perform s = (.ok record, s') ∧ record.Layered ∧ _
  unfold ofText
  have hnone : ∀ {fault}, Yaml.load text.toList = .error fault →
      (({} : WorkflowRecord).IsNameOnly ↔ ∃ source, Yaml.load text.toList = .ok source ∧
        HasLongPermissions source) := fun hfault => by
    refine ⟨fun h => (by cases h.2), ?_⟩
    rintro ⟨source, hsource, -⟩
    cases hsource.symm.trans hfault
  split
  · rename_i source hsource
    obtain ⟨record, s', hrun, hlayered, hname⟩ := exists_ofDocument source s
    refine ⟨record, s', hrun, hlayered, hname.trans ⟨fun hlong => ⟨source, hsource, hlong⟩, ?_⟩⟩
    rintro ⟨other, hother, hlong⟩
    exact Except.ok.inj (hother.symm.trans hsource) ▸ hlong
  · exact ⟨_, s, rfl, ⟨fun _ => rfl, fun _ => rfl⟩, hnone ‹_›⟩
  · exact ⟨_, s, rfl, ⟨fun _ => rfl, fun _ => rfl⟩, hnone ‹_›⟩
  · exact absurd ‹_› (hload _)

/-! ## Triggers -/

/-- What the content of a trigger adds to its entry: the names of the filters, if it is a
mapping. -/
def filterFields : Value → List (String × Value)
  | .map _ filters => [("filters", .plainList (Entries.keys filters))]
  | _ => []

/-- An entry gives a trigger with its rank and its filters. -/
def IsEvent (name content event : Value) : Prop :=
  ∃ rank, rank? name = some rank ∧
    event = .record ([("type", name), ("security_rank", .int rank)] ++ filterFields content)

/-- Events are the entries of the triggers of a workflow, in order: one entry for a single name, and
a list of them for a list of names or a mapping. -/
inductive EventsOf : (on events : Value) → Prop where
  | single {name : String} {event : Value} (h : IsEvent (.text name) .null event) :
    EventsOf (.text name) event
  | listed {kind : ListKind} {names events : List Value}
    (h : List.Forall₂ (fun name event => IsEvent name .null event) names events) :
    EventsOf (.list kind names) (.plainList events)
  | mapped {kind : MapKind} {entries : Entries} {events : List Value}
    (h : List.Forall₂ (fun entry event => IsEvent entry.1 entry.2 event) entries events) :
    EventsOf (.map kind entries) (.plainList events)

theorem isEvent_of_listedTriggers {names : List Value} {triggers : List Trigger}
    (h : listedTriggers names = some triggers) :
    List.Forall₂ (fun name event => IsEvent name .null event) names
      (triggers.map Trigger.toValue) := by
  unfold listedTriggers at h
  induction names generalizing triggers with
  | nil =>
    cases h
    exact .nil
  | cons name rest ih =>
    rw [List.mapM_cons] at h
    obtain ⟨trigger, htrigger, h⟩ := Option.bind_eq_some_iff.mp h
    obtain ⟨others, hothers, h⟩ := Option.bind_eq_some_iff.mp h
    obtain ⟨rank, hrank, rfl⟩ := Option.map_eq_some_iff.mp htrigger
    cases h
    exact .cons ⟨rank, hrank, rfl⟩ (ih hothers)

theorem isEvent_of_mappedTrigger? {name content : Value} {trigger : Trigger}
    (h : mappedTrigger? name content = some trigger) : IsEvent name content trigger.toValue := by
  obtain ⟨rank, hrank, rfl⟩ := Option.map_eq_some_iff.mp h
  refine ⟨rank, hrank, ?_⟩
  cases content <;> rfl

/-- Where all triggers of a mapping have a rank, none is left out. -/
theorem isEvent_of_mappedTriggers {entries : Entries} (h : (mappedTriggers entries).2 = true) :
    List.Forall₂ (fun entry event => IsEvent entry.1 entry.2 event) entries
      ((mappedTriggers entries).1.map Trigger.toValue) := by
  induction entries with
  | nil => exact .nil
  | cons entry rest ih =>
    obtain ⟨name, content⟩ := entry
    rw [mappedTriggers] at h ⊢
    cases htrigger : mappedTrigger? name content with
    | none =>
      rw [htrigger] at h
      cases h
    | some trigger =>
      rw [htrigger] at h
      exact .cons (isEvent_of_mappedTrigger? htrigger) (ih h)

theorem eventsOf_of_triggersOf {on : Value} {triggers : Triggers}
    (h : triggersOf on = (some triggers, true)) : EventsOf on triggers.toValue := by
  unfold triggersOf at h
  split at h
  · split at h
    · rename_i rank hrank
      cases h
      exact .single ⟨rank, hrank, rfl⟩
    · cases h
  · split at h
    · rename_i hlisted
      cases h
      exact .listed (isEvent_of_listedTriggers hlisted)
    · cases h
  · rename_i kind entries
    obtain ⟨hfound, hcomplete⟩ := Prod.mk.inj h
    cases hfound
    exact .mapped (isEvent_of_mappedTriggers hcomplete)
  · cases h

end Extraction

/-! ## Jobs and steps of a record -/

/-- The value of a record with all its parts. -/
abbrev wholeValue (heading : Heading) (triggers : Triggers) (found : List (Value × JobRecord)) :
    Value :=
  WorkflowRecord.toValue ⟨none, some heading, some triggers, some found⟩

section Views

variable {heading : Heading} {triggers : Triggers} {found : List (Value × JobRecord)}

theorem jobsIn_wholeValue :
    (wholeValue heading triggers found).jobsIn = found.map fun job => (job.1, job.2.toValue) := rfl

theorem stepsIn_toValue (job : JobRecord) :
    job.toValue.stepsIn = job.steps.map StepRecord.toValue :=
  rfl

theorem StepRecord.field_security (step : StepRecord) :
    step.toValue.field "security" = .ok step.security.toValue := by
  obtain ⟨name, conditional, position, uses, security, script⟩ := step
  cases script <;> rfl

theorem StepRecord.field_uses (step : StepRecord) : step.toValue.field "uses" = .ok step.uses := by
  obtain ⟨name, conditional, position, uses, security, script⟩ := step
  cases script <;> rfl

theorem StepRecord.under_position (step : StepRecord) :
    step.toValue.under "position" = .int step.position := by
  obtain ⟨name, conditional, position, uses, security, script⟩ := step
  cases script <;> rfl

/-- The flagged lines of a step as a value. -/
def linesToValue (lines : List Script.FlaggedLine) : Value :=
  .plainList (lines.map Script.FlaggedLine.toValue)

/-- The flagged lines of a step, which are none where it has no script. -/
def StepRecord.flagged (step : StepRecord) : List Script.FlaggedLine :=
  step.security.lines?.getD []

/-- The flagged lines of a step in a list of such, which leaves out the steps that have none. -/
def listed (lines : List Script.FlaggedLine) : List Value :=
  if lines.isEmpty then [] else [linesToValue lines]

theorem StepSecurity.field_runs (security : StepSecurity) :
    security.toValue.field "runs" = .ok ((security.lines?.map linesToValue).getD .null) := by
  cases security <;> rfl

/-- A workflow has the jobs of its source, under the same names and in the same order, and each job
has a step for each step of its source, numbered from one. -/
def SameJobs (source out : Value) : Prop :=
  List.Forall₂ (fun job found => found.1 = job.1 ∧
      found.2.stepsIn.map (·.under "position") =
        (List.range' 1 job.2.stepsIn.length).map fun n => .int (n : Nat))
    source.jobsIn out.jobsIn

theorem positions_of_jobOf {workflowCondition : Bool} {source : Value} {job : JobRecord}
    (h : job.Of workflowCondition source) :
    job.toValue.stepsIn.map (·.under "position") =
      (List.range' 1 source.stepsIn.length).map fun n => .int (n : Nat) := by
  rw [stepsIn_toValue, ← List.zipIdx_map_snd, List.map_map, List.map_map, ← List.forall₂_eq_eq_eq,
    List.forall₂_map_left_iff, List.forall₂_map_right_iff]
  refine h.flip.imp fun step numbered hstep => ?_
  show step.toValue.under "position" = .int numbered.2
  rw [step.under_position, hstep.position]

theorem sameJobs_of_jobsOf {workflowCondition : Bool} {source : Value}
    (h : JobsOf workflowCondition source.jobsIn found) :
    SameJobs source (wholeValue heading triggers found) := by
  rw [SameJobs, jobsIn_wholeValue, List.forall₂_map_right_iff]
  exact h.imp fun job record hjob => ⟨hjob.1, positions_of_jobOf hjob.2⟩

end Views

/-! ## Those who read it -/

namespace Findings

variable {α : Type} {heading : Heading} {triggers : Triggers} {found : List (Value × JobRecord)}

/-- The steps of some jobs, each with the name of its job. -/
def stepsOf (found : List (Value × JobRecord)) : List (Value × StepRecord) :=
  found.flatMap fun job => job.2.steps.map fun step => (job.1, step)

/-- A walk over the value of a record is a walk over its steps. -/
theorem foldSteps_wholeValue (visit : α → Value → Value → Except Failure α) (start : α) :
    foldSteps visit start (wholeValue heading triggers found) =
      (stepsOf found).foldlM (fun known step => visit known step.1 step.2.toValue) start := by
  have hwalk : foldSteps visit start (wholeValue heading triggers found) =
      found.foldlM (fun known job =>
        job.2.steps.foldlM (fun known step => visit known job.1 step.toValue) known) start := by
    show ((found.map fun job => (job.1, job.2.toValue)).map
      fun entry => (entry.1, (Pure.pure entry.2 : Except Failure Value))).foldlM _ start = _
    rw [List.foldlM_map, List.foldlM_map]
    exact congrArg (found.foldlM · start) (funext₂ fun known job => List.foldlM_map ..)
  rw [hwalk]
  clear hwalk
  induction found generalizing start with
  | nil => rfl
  | cons job rest ih =>
    rw [stepsOf, List.flatMap_cons, List.foldlM_append, List.foldlM_cons, List.foldlM_map]
    exact bind_congr fun known => ih known

/-- A walk in which every step can be visited comes to an end. -/
theorem exists_foldSteps {visit : α → Value → Value → Except Failure α}
    (hvisit : ∀ known job (step : StepRecord), ∃ next, visit known job step.toValue = .ok next)
    (start : α) :
    ∃ known, foldSteps visit start (wholeValue heading triggers found) = .ok known := by
  rw [foldSteps_wholeValue]
  induction stepsOf found generalizing start with
  | nil => exact ⟨start, rfl⟩
  | cons step rest ih =>
    obtain ⟨next, hnext⟩ := hvisit start step.1 step.2
    obtain ⟨known, hknown⟩ := ih next
    exact ⟨known, foldlM_ok_cons.mpr ⟨next, hnext, hknown⟩⟩

/-- A walk that adds something at every step adds all of it. -/
theorem foldSteps_collect {visit : List α → Value → Value → Except Failure (List α)}
    {news : Value × StepRecord → List α}
    (hvisit : ∀ known job (step : StepRecord),
      visit known job step.toValue = .ok (known ++ news (job, step))) (known : List α) :
    foldSteps visit known (wholeValue heading triggers found) =
      .ok (known ++ (stepsOf found).flatMap news) := by
  rw [foldSteps_wholeValue]
  induction stepsOf found generalizing known with
  | nil => exact congrArg Except.ok (List.append_nil known).symm
  | cons step rest ih =>
    refine foldlM_ok_cons.mpr ⟨_, hvisit known step.1 step.2, (ih _).trans ?_⟩
    rw [List.append_assoc, List.flatMap_cons]

/-- The flagged lines of a workflow are those of its steps, in order, where there are some. -/
theorem flaggedRuns_wholeValue :
    flaggedRuns (wholeValue heading triggers found) =
      .ok ((stepsOf found).flatMap fun step => listed step.2.flagged) := by
  refine foldSteps_collect (fun known job step => ?_) []
  refine bind_ok.mpr ⟨_, step.field_security, bind_ok.mpr ⟨_, step.security.field_runs, ?_⟩⟩
  show _ = Except.ok (known ++ listed (step.security.lines?.getD []))
  cases step.security.lines? with
  | none => exact congrArg Except.ok (List.append_nil known).symm
  | some lines =>
    cases lines with
    | nil => exact congrArg Except.ok (List.append_nil known).symm
    | cons line rest => rfl

theorem exists_actionUses :
    ∃ uses, actionUses (wholeValue heading triggers found) = .ok uses := by
  refine exists_foldSteps (fun known job step => ?_) []
  obtain ⟨name, conditional, position, uses, security, script⟩ := step
  cases script <;> cases security <;> exact ⟨_, rfl⟩

theorem exists_upToDateCounts :
    ∃ counts, upToDateCounts (wholeValue heading triggers found) = .ok counts := by
  refine exists_foldSteps (fun known job step => ?_) (0, 0)
  obtain ⟨name, conditional, position, uses, security, script⟩ := step
  cases security with
  | none | flaggedLines => cases script <;> exact ⟨_, rfl⟩
  | upToDate flag => cases script <;> cases flag <;> exact ⟨_, rfl⟩

theorem usesOfAll_wholeValue :
    usesOfAll (.plainList [wholeValue heading triggers found]) =
      .ok ((stepsOf found).flatMap fun step => [step.2.uses]) := by
  refine bind_ok.mpr ⟨_, rfl,
    foldlM_ok_cons.mpr ⟨_, foldSteps_collect (fun known job step => ?_) [], rfl⟩⟩
  exact bind_ok.mpr ⟨_, step.field_uses, rfl⟩

theorem permissions_wholeValue :
    permissions (wholeValue heading triggers found) =
      .ok ⟨.ofChars heading.permissions, found.map fun job => (job.1, job.2.permissions)⟩ := by
  refine bind_ok.mpr ⟨_, rfl, bind_ok.mpr ⟨_, rfl, bind_ok.mpr ⟨_, rfl, bind_ok.mpr ⟨_, ?_, rfl⟩⟩⟩⟩
  rw [mapM_ok, List.forall₂_map_left_iff, List.forall₂_map_right_iff]
  show List.Forall₂ _ (found.map fun job => (job.1, job.2.toValue)) found
  rw [List.forall₂_map_left_iff]
  exact List.forall₂_same.mpr fun job _ => rfl

/-- The permissions of a job can be said: if it has some, they and its name can be shown. -/
def IsSayable (job : Value × Value) : Prop :=
  (job.2.under "permissions").isTruthy = true →
    job.1.isShowable = true ∧ (job.2.under "permissions").isShowable = true

/-- Says the permissions of one job, if it has some. -/
def sayPermissions (job : Value × Value) : Audit (ForInStep PUnit) := do
  let granted ← Audit.check (job.2.itemNamed "permissions")
  if granted.isTruthy then
    let id ← Audit.check job.1.shown
    let granted ← Audit.check granted.shown
    Audit.say ("Job ".toList ++ id ++ " has permissions: ".toList ++ granted)
    return .yield ⟨⟩
  else return .yield ⟨⟩

theorem says_sayPermissions {id : Value} {job : JobRecord} (h : IsSayable (id, job.toValue))
    (s : Session) : (sayPermissions (id, job.toValue)).Says s (.yield ⟨⟩) := by
  refine .bind (.check (a := job.permissions) rfl) fun said => ?_
  split
  · rename_i htruthy
    obtain ⟨hid, hgranted⟩ := h htruthy
    refine .bind (.check (Value.shown_of_isShowable hid)) fun said => ?_
    refine .bind (.check (Value.shown_of_isShowable hgranted)) fun said => ?_
    exact .bind (.say _) fun said => .pure _
  · exact .pure _

theorem stops_sayPermissions {id : Value} {job : JobRecord} (h : ¬ IsSayable (id, job.toValue))
    (s : Session) : (sayPermissions (id, job.toValue)).Stops s .longInteger := by
  refine .bind_next (.check (a := job.permissions) rfl) fun said => ?_
  split
  · cases hid : id.isShowable with
    | false => exact .bind (.check (Value.shown_of_not_isShowable hid))
    | true =>
      refine .bind_next (.check (Value.shown_of_isShowable hid)) fun said => ?_
      cases hgranted : job.permissions.isShowable with
      | false => exact .bind (.check (Value.shown_of_not_isShowable hgranted))
      | true => exact absurd (fun _ => ⟨hid, hgranted⟩) h
  · rename_i hfalse
    exact absurd (fun htruthy => absurd htruthy hfalse) h

/-- The permissions of a record are said job by job. -/
theorem says_reportPermissions (name : Value) (s : Session)
    (h : ∀ job ∈ (wholeValue heading triggers found).jobsIn, IsSayable job) :
    (reportPermissions (.plainList [name, wholeValue heading triggers found])).Says s () := by
  unfold reportPermissions
  refine .bind (.check (a := (name, _)) rfl) fun said => ?_
  refine .bind (.check rfl) fun said => ?_
  extract_lets jobs
  have hjobs : ∀ u s, (jobs u).Says s () := by
    intro u s
    refine .bind (.check rfl) fun said => ?_
    refine .bind (.check rfl) fun said => ?_
    refine .bind (.forIn (fun job hjob s => ?_) _) fun said => .pure _
    obtain ⟨⟨id, record⟩, -, rfl⟩ := List.mem_map.mp hjob
    exact says_sayPermissions (h _ hjob) s
  split
  · exact .bind (.check rfl) fun said => .bind (.say _) fun said => hjobs () _
  · exact hjobs () _

/-- Saying them ends at the first that cannot be said. -/
theorem stops_reportPermissions (name : Value) (s : Session)
    (h : ¬ ∀ job ∈ (wholeValue heading triggers found).jobsIn, IsSayable job) :
    (reportPermissions (.plainList [name, wholeValue heading triggers found])).Stops s
      .longInteger := by
  unfold reportPermissions
  refine .bind_next (.check (a := (name, _)) rfl) fun said => ?_
  refine .bind_next (.check rfl) fun said => ?_
  extract_lets jobs
  have hjobs : ∀ u s, (jobs u).Stops s .longInteger := by
    intro u s
    refine .bind_next (.check rfl) fun said => ?_
    refine .bind_next (.check rfl) fun said => ?_
    refine .bind (.forIn (fun job hjob hsayable s => ?_) (fun job hjob hnot s => ?_) h _)
    · obtain ⟨⟨id, record⟩, -, rfl⟩ := List.mem_map.mp hjob
      exact says_sayPermissions hsayable s
    · obtain ⟨⟨id, record⟩, -, rfl⟩ := List.mem_map.mp hjob
      exact stops_sayPermissions hnot s
  split
  · exact .bind_next (.check rfl) fun said => .bind_next (.say _) fun said => hjobs () _
  · exact hjobs () _

/-- Those who read an extracted workflow without saying anything. -/
def readers (out : Value) : List Operation :=
  [.flaggedRuns out, .actionUses out, .upToDateCounts out, .permissions out,
    .usesOfAll (.plainList [out])]

/-- All of them get an answer from the value of a record. -/
theorem says_readers {operation : Operation}
    (h : operation ∈ readers (wholeValue heading triggers found))
    (s : Session) : ∃ answer, operation.run.Says s answer := by
  simp only [readers, List.mem_cons, List.not_mem_nil, or_false] at h
  rcases h with rfl | rfl | rfl | rfl | rfl
  · exact ⟨_, .bind (.check flaggedRuns_wholeValue) fun _ => .pure _⟩
  · obtain ⟨uses, huses⟩ := exists_actionUses
    exact ⟨_, .bind (.check huses) fun _ => .pure _⟩
  · obtain ⟨counts, hcounts⟩ := exists_upToDateCounts
    exact ⟨_, .bind (.check hcounts) fun _ => .pure _⟩
  · exact ⟨_, .bind (.check permissions_wholeValue) fun _ => .pure _⟩
  · exact ⟨_, .bind (.check usesOfAll_wholeValue) fun _ => .pure _⟩

/-- A list of flagged lines: it is not empty, and each entry gives a line as a text. -/
def IsLines (run : Value) : Prop :=
  ∃ entries, run = .plainList entries ∧ entries ≠ [] ∧
    ∀ entry ∈ entries, ∃ line : String, entry.field "line" = .ok (.text line)

theorem isLines_of_listed {lines : List Script.FlaggedLine} {run : Value} (h : run ∈ listed lines) :
    IsLines run := by
  unfold listed at h
  split at h
  · cases h
  · rename_i hlines
    obtain rfl := List.mem_singleton.mp h
    refine ⟨_, rfl, fun hnil => hlines (List.isEmpty_iff.mpr (List.map_eq_nil_iff.mp hnil)), ?_⟩
    rintro entry hentry
    obtain ⟨line, -, rfl⟩ := List.mem_map.mp hentry
    exact ⟨String.ofList line.line, rfl⟩

end Findings

/-! ## The shape as a whole -/

/-- What an extracted workflow with jobs is like: it has the triggers and the jobs of its source,
and it can be read. -/
structure Shaped (source out : Value) : Prop where
  events : Extraction.EventsOf (source.under "on") (out.under "events")
  jobs : SameJobs source out
  read : ∀ operation ∈ Findings.readers out, ∀ s, ∃ answer, operation.run.Says s answer
  said : (∀ job ∈ out.jobsIn, Findings.IsSayable job) → ∀ name s, ∃ answer,
    (Operation.reportPermissions (.plainList [name, out])).run.Says s answer
  unsaid : (¬ ∀ job ∈ out.jobsIn, Findings.IsSayable job) → ∀ name s,
    (Operation.reportPermissions (.plainList [name, out])).run.Stops s .longInteger
  runs : ∃ found, Findings.flaggedRuns out = .ok found ∧ ∀ run ∈ found, Findings.IsLines run

theorem Extraction.Extracted.shaped {source : Value} {record : WorkflowRecord}
    {found : List (Value × JobRecord)} {s s' : Session} (h : Extracted source record found s s') :
    Shaped source record.toValue := by
  obtain ⟨heading, triggers, on, rfl, -, hon, htriggers⟩ := h.parts
  refine ⟨?_, ?_, fun operation hread s => Findings.says_readers hread s,
    fun hsayable name s => ⟨_,
      .bind (Findings.says_reportPermissions name s hsayable) fun _ => .pure _⟩,
    fun hnot name s => .bind (Findings.stops_reportPermissions name s hnot),
    _, Findings.flaggedRuns_wholeValue, fun run hrun => ?_⟩
  · rw [Value.under_of_field? hon]
    exact eventsOf_of_triggersOf htriggers
  · have hjobs := jobsOf_of_perform h.jobs
    rw [entriesIn_jobSources] at hjobs
    exact sameJobs_of_jobsOf hjobs
  · obtain ⟨step, -, hstep⟩ := List.mem_flatMap.mp hrun
    exact Findings.isLines_of_listed hstep

/-- **Extracted workflows have the shape that their readers need.**  A text whose loading does not
end in a failure that nobody catches is extracted, whatever the session, and the names of the fields
of the result are in one of five layouts.  The name stands alone exactly when the text has a
document whose permissions cannot be turned into text.

When the result has jobs, then it comes from a document, of which it has every trigger in order,
with rank and filters, and every job in order, with as many steps, numbered from one.  And whoever
reads it gets an answer, in any session, without anything but printing being done; the flagged lines
among the answers are lists that are not empty, of entries with a line.  The one exception is the
reader that says which permissions there are: it ends at the first job with permissions that has a
too long integer in its name or in them. -/
theorem extracted_workflow_shape {text : String}
    (hload : ∀ cause, Yaml.load text.toList ≠ .error (.failure cause)) (s : Session) :
    ∃ fields s', (Operation.extractWorkflow (.text text)).run.perform s =
      (.ok (.record fields), s') ∧
      fields.map Prod.fst ∈ WorkflowRecord.layouts ∧
      (fields.map Prod.fst = ["name"] ↔ ∃ source, Yaml.load text.toList = .ok source ∧
        (source.under "permissions").isShowable = false) ∧
      ("jobs" ∈ fields.map Prod.fst →
        ∃ source, Yaml.load text.toList = .ok source ∧ Shaped source (.record fields)) := by
  obtain ⟨record, s', hrun, hlayered, hname⟩ := Extraction.exists_workflow hload s
  obtain ⟨fields, hfields, hlayout, hnameOnly, hjobs⟩ := hlayered.exists_fields
  refine ⟨fields, s', perform_bind_ok.mpr ⟨record, s', hrun, ?_⟩, hlayout, hnameOnly.trans hname,
    fun hmem => ?_⟩
  · rw [hfields, perform_pure]
  · obtain ⟨found, hfound⟩ := Option.isSome_iff_exists.mp (hjobs hmem)
    obtain ⟨source, hsource, hextracted⟩ := Extraction.exists_source hrun hfound
    exact ⟨source, hsource, hfields ▸ hextracted.shaped⟩

/-- The law at a workflow with all its parts. -/
theorem extracted_build_shape :
    ∃ fields s', (Operation.extractWorkflow (.text buildText)).run.perform buildSession =
        (.ok (.record fields), s') ∧
      fields.map Prod.fst = ["name", "permissions", "conditional", "events", "jobs"] ∧
      ∃ source, Yaml.load buildText.toList = .ok source ∧ Shaped source (.record fields) := by
  obtain ⟨out, s', hout, hhas, hcount⟩ := exists_build
  obtain ⟨source, -, -, -, hsource, -⟩ := Extraction.exists_extracted hout hhas
  obtain ⟨fields, s'', hrun, hlayout, -, hjobs⟩ := extracted_workflow_shape
    (fun cause hfault => by cases hsource.symm.trans hfault) buildSession
  obtain ⟨he, -⟩ := Prod.mk.inj (hout.symm.trans hrun)
  obtain rfl := Except.ok.inj he
  have hlength : (fields.map Prod.fst).length = 5 := by
    simpa [Value.record, Report.entriesIn] using hcount
  have hfull : ∀ names ∈ WorkflowRecord.layouts, names.length = 5 →
      names = ["name", "permissions", "conditional", "events", "jobs"] := by decide
  have hnames := hfull _ hlayout hlength
  exact ⟨fields, s'', hrun, hnames, hjobs (by rw [hnames]; decide)⟩

/-- A workflow whose permissions are an integer with too many digits, written in hexadecimal. -/
def longPermissions : List Char :=
  "permissions: 0x".toList ++ (List.replicate 3600 'f' ++ "\non: push\njobs: \x7b\x7d\n".toList)

set_option maxRecDepth 100000 in
theorem ofText_longPermissions :
    ((Extraction.ofText longPermissions).perform {}).1.toOption.any (fun record =>
      record.loneName.any Value.isNull && record.heading.isNone && record.triggers.isNone &&
        record.jobs.isNone) = true := by
  decide +kernel

/-- Of a workflow with such permissions nothing but its name is extracted, though it is well-formed
and has a trigger and jobs. -/
theorem long_permissions_leave_name :
    ∃ s', (Operation.extractWorkflow (.text (String.ofList longPermissions))).run.perform {} =
      (.ok (.record [("name", .null)]), s') := by
  obtain ⟨⟨loneName, heading, triggers, jobs⟩, s', hrun, hparts⟩ :=
    exists_of_any ofText_longPermissions
  simp only [Bool.and_eq_true, Option.isNone_iff_eq_none, Option.any_eq_true] at hparts
  obtain ⟨⟨⟨⟨name, rfl, hname⟩, rfl⟩, rfl⟩, rfl⟩ := hparts
  obtain rfl := Value.eq_null_of_isNull hname
  refine ⟨s', perform_bind_ok.mpr ⟨⟨some .null, none, none, none⟩, s', ?_, rfl⟩⟩
  show (Extraction.ofText (String.ofList longPermissions).toList).perform {} = _
  rw [String.toList_ofList]
  exact hrun

end WorkflowAudit
