import WorkflowAudit.Proofs.Changes
import WorkflowAudit.Proofs.Keys
import WorkflowAudit.Proofs.Places
import WorkflowAudit.Proofs.Showable

/-! # What a report is made of

Building a report talks to its session in two ways only: it asks for the tags, and it announces some
uses of actions.  Everything else is a check of values.  `Report.assess` is the report of a file
with one more workflow *for given tags*, as a check; `Report.assessAll` is the whole report when
every request for tags is answered with the same ones.

Two statements tie them to the tasks.  Whatever the tags are fetched by, a workflow that was added
was assessed with the tags that came (`addWorkflow_ok`); and where the tags are the same every time,
building a report comes to the result of the check, failures included (`gives_build`).

For a workflow that was assessed, `assess_ok` says what its entry gains: the issues of its first
flagged line, those of its jobs without permissions, and those of its uses of actions, in this
order.
-/
namespace WorkflowAudit

/-! ## Tasks that come to a known result -/

/-- A way of following runs: `holds` is what is known of the session on the way, and `ends` what is
known of the session at the end.  Printing keeps what is known, and what is known of the end was
known before. -/
structure Scene (into : List String) where
  holds : Session → Prop
  ends : Session → Prop
  holds_printed : ∀ {s : Session} (text : List Char), holds s → holds (s.printed text)
  ends_earlier : ∀ {s s' : Session}, Session.Changes into s s' → ends s' → ends s

namespace Scene

open Audit

variable {α β : Type} {into : List String} (scene : Scene into)

/-- A task comes to a result: every run of it in the scene gives the result and stays in the
scene. -/
def Gives (task : Audit α) (result : Except Failure α) : Prop :=
  ∀ s, scene.holds s → scene.ends (task.perform s).2 →
    (task.perform s).1 = result ∧ scene.holds (task.perform s).2

variable {scene}

theorem gives_check (result : Except Failure α) : scene.Gives (Audit.check result) result := by
  intro s hs _
  rw [perform_check]
  exact ⟨rfl, hs⟩

theorem gives_pure (a : α) : scene.Gives (pure a) (.ok a) :=
  fun _ hs _ => ⟨rfl, hs⟩

theorem gives_say (line : List Char) : scene.Gives (Audit.say line) (.ok ()) :=
  fun _ hs _ => ⟨rfl, scene.holds_printed _ hs⟩

/-- Results follow each other as tasks do.  What is known of the end reaches the first task because
the second one only adds to its session. -/
theorem Gives.bind {task : Audit α} {result : Except Failure α} {next : α → Audit β}
    {f : α → Except Failure β} (h : scene.Gives task result)
    (hwithin : ∀ a, (next a).Within into) (hnext : ∀ a, scene.Gives (next a) (f a)) :
    scene.Gives (task >>= next) (result >>= f) := by
  intro s hs hends
  rw [perform_bind] at hends ⊢
  rcases hrun : task.perform s with ⟨outcome, s₁⟩
  rw [hrun] at hends
  have hfirst := h s hs
  rw [hrun] at hfirst
  cases outcome with
  | error failure =>
    obtain ⟨rfl, hs₁⟩ := hfirst hends
    exact ⟨rfl, hs₁⟩
  | ok a =>
    -- the end is that of the second task, and the first has to be told about it
    obtain ⟨rfl, hs₁⟩ := hfirst (scene.ends_earlier (hwithin a s₁) hends)
    exact hnext a s₁ hs₁ hends

theorem Gives.foldlM {visit : β → α → Audit β} {f : β → α → Except Failure β} {items : List α}
    (hwithin : ∀ found a, (visit found a).Within into)
    (h : ∀ found, ∀ a ∈ items, scene.Gives (visit found a) (f found a)) (start : β) :
    scene.Gives (items.foldlM visit start) (items.foldlM f start) := by
  induction items generalizing start with
  | nil => exact gives_pure start
  | cons a items ih =>
    rw [List.foldlM_cons, List.foldlM_cons]
    exact (h start a List.mem_cons_self).bind (fun found => .foldlM hwithin items found)
      (ih fun found a' ha' => h found a' (List.mem_cons_of_mem a ha'))

/-- The scene in which nothing is known. -/
def anywhere : Scene [] where
  holds _ := True
  ends _ := True
  holds_printed _ h := h
  ends_earlier _ h := h

/-- What a task comes to anywhere is the result of each of its runs. -/
theorem Gives.result_eq {task : Audit α} {result : Except Failure α}
    (h : anywhere.Gives task result)
    (s : Session) : (task.perform s).1 = result :=
  (h s trivial trivial).1

end Scene

namespace Report

open Audit

variable {into : List String} {fetchTags : Audit Value} {s s' : Session}

/-! ## The labels of a use -/

/-- The tests for a branch come to the same every time, so two branches are left for a reference
that does not match. -/
theorem branchOf_eq (reference : List Char) (flag : Value) :
    branchOf reference flag = (do
      if ← Pattern.textMatches reference commitDigest then return .matching
      else if flag.isTruthy then return .notMatching
      else return .falseNotMatching) := by
  unfold branchOf
  cases Pattern.textMatches reference commitDigest with
  | error failure => rfl
  | ok matched =>
    cases matched with
    | true => rfl
    | false => cases flag.isTruthy <;> rfl

/-- The labels of a use by two tests only: whether its reference matches, and else its flag. -/
def testedLabels (tags : Value) (use : Findings.ActionUse) :
    Except Failure (List Label × Bool) := do
  let reference := Text.afterLast '@' (← use.uses.splitChars)
  if ← Pattern.textMatches reference commitDigest then
    if (Value.ofChars reference).equal (← newestDigest tags) then return ([], false)
    else return ([.outOfDate], true)
  else if use.upToDate.isTruthy then return ([.notPinned], false)
  else return ([.outOfDate, .notPinned], false)

/-- The chain of tests comes to two, with its failures. -/
theorem useLabels_eq (tags : Value) (use : Findings.ActionUse) :
    useLabels tags use = testedLabels tags use := by
  unfold useLabels testedLabels
  cases use.uses.splitChars with
  | error failure => rfl
  | ok chars =>
    show (branchOf (Text.afterLast '@' chars) use.upToDate >>= fun branch =>
      branch.labels tags (Text.afterLast '@' chars)) = _
    rw [branchOf_eq]
    show _ = Pattern.textMatches (Text.afterLast '@' chars) commitDigest >>= _
    cases Pattern.textMatches (Text.afterLast '@' chars) commitDigest with
    | error failure => rfl
    | ok matched =>
      cases matched with
      | true => rfl
      | false => cases use.upToDate.isTruthy <;> rfl

/-! ## One workflow -/

/-- A workflow whose entry holds all that does not depend on tags. -/
structure Opened where
  name : Value
  report : FileReport
  /-- The uses of actions that are left to be judged. -/
  uses : List Findings.ActionUse

/-- The part of `addWorkflow` before the tags are asked for. -/
def opened (report : FileReport) (workflow : Value) : Except Failure Opened := do
  let runs ← Findings.flaggedRuns workflow
  let uses ← Findings.actionUses workflow
  let permissions ← Findings.permissions workflow
  let name ← workflow.field "name"
  let events ← workflow.field "events"
  let report ← enter name events report
  if !runs.isEmpty then
    let _ ← entryOf name report
  let report ← addIssues name (← exposures runs) report
  let report ← addIssues name (permissionIssues permissions) report
  return ⟨name, report, uses⟩

/-- The report of a file with the issues of one more use of an action, for given tags. -/
def judge (name tags : Value) (report : FileReport) (use : Findings.ActionUse) :
    Except Failure FileReport := do
  let (labels, _) ← useLabels tags use
  addIssues name (labels.map (Issue.about use.job)) report

/-- The report of a file with one more workflow, for given tags. -/
def assess (tags : Value) (report : FileReport) (workflow : Value) : Except Failure FileReport := do
  let o ← opened report workflow
  o.uses.foldlM (judge o.name tags) o.report

theorem addWorkflow_eq (fetchTags : Audit Value) (report : FileReport) (workflow : Value) :
    addWorkflow fetchTags report workflow = (do
      let o ← Audit.check (opened report workflow)
      let tags ← fetchTags
      o.uses.foldlM (addUse o.name tags) o.report) := by
  unfold addWorkflow opened
  simp only [check_bind, bind_assoc]
  refine bind_congr fun runs => bind_congr fun uses => bind_congr fun permissions => ?_
  refine bind_congr fun name => bind_congr fun events => bind_congr fun entered => ?_
  -- up to here the two bodies are the same; the look at the entry depends on the flagged lines
  cases runs with
  | nil =>
    simp only [List.isEmpty_nil, Bool.not_true, Bool.false_eq_true, if_false, check_bind,
      bind_assoc]
    rfl
  | cons run rest =>
    simp only [List.isEmpty_cons, Bool.not_false, if_true, check_bind, bind_assoc]
    rfl

theorem gives_addUse (scene : Scene into) (name tags : Value) (report : FileReport)
    (use : Findings.ActionUse) :
    scene.Gives (addUse name tags report use) (judge name tags report use) := by
  unfold addUse judge
  refine (Scene.gives_check _).bind (fun (labels, announced) => ?_) fun (labels, announced) => ?_
  · cases announced with
    | true => exact (Within.say _).bind fun _ => .check _
    | false => exact .check _
  · cases announced with
    | true => exact (Scene.gives_say _).bind (fun _ => .check _) fun _ => Scene.gives_check _
    | false => exact Scene.gives_check _

theorem gives_addUses (scene : Scene into) (name tags : Value) (uses : List Findings.ActionUse)
    (report : FileReport) :
    scene.Gives (uses.foldlM (addUse name tags) report) (uses.foldlM (judge name tags) report) :=
  .foldlM (fun found use => within_addUse name tags found use)
    (fun found use _ => gives_addUse scene name tags found use) report

/-- Where tags are fetched with a known result, a workflow is assessed with them. -/
theorem gives_addWorkflow {scene : Scene into} {tags : Value} (hwithin : fetchTags.Within into)
    (hfetch : scene.Gives fetchTags (.ok tags)) (report : FileReport) (workflow : Value) :
    scene.Gives (addWorkflow fetchTags report workflow) (assess tags report workflow) := by
  have huses : ∀ (o : Opened) (found : Value),
      (o.uses.foldlM (addUse o.name found) o.report).Within into := fun o found =>
    .foldlM (fun report use => within_addUse o.name found report use) o.uses o.report
  rw [addWorkflow_eq]
  unfold assess
  refine (Scene.gives_check _).bind (fun o => hwithin.bind (huses o)) fun o => ?_
  show scene.Gives _ (Except.ok tags >>= fun found => o.uses.foldlM (judge o.name found) o.report)
  exact hfetch.bind (huses o) fun found => gives_addUses scene o.name found o.uses o.report

/-- A workflow that was added was assessed with the tags that were fetched. -/
theorem addWorkflow_ok {report report' : FileReport} {workflow : Value}
    (h : (addWorkflow fetchTags report workflow).perform s = (.ok report', s')) :
    ∃ tags s₁, fetchTags.perform s = (.ok tags, s₁) ∧
      assess tags report workflow = .ok report' := by
  rw [addWorkflow_eq] at h
  obtain ⟨o, s₁, hcheck, h⟩ := perform_bind_ok.mp h
  obtain ⟨hopened, rfl⟩ := perform_check_ok.mp hcheck
  obtain ⟨tags, s₁, hfetch, h⟩ := perform_bind_ok.mp h
  -- judging does not depend on the session, so this run shows the result of all
  have hjudged := (gives_addUses .anywhere o.name tags o.uses o.report).result_eq s₁
  rw [h] at hjudged
  exact ⟨tags, s₁, hfetch, bind_ok.mpr ⟨o, hopened, hjudged.symm⟩⟩

/-! ## The issues of a workflow -/

/-- The issues that a use of an action gives, for given tags; a use that cannot be judged gives
none. -/
def useIssues (tags : Value) (use : Findings.ActionUse) : List Issue :=
  match useLabels tags use with
  | .ok (labels, _) => labels.map (Issue.about use.job)
  | .error _ => []

/-- The exposures of a workflow are those of the first line of the first step that has flagged
lines. -/
theorem exposures_ok {runs : List Value} {exposed : List Issue} (h : exposures runs = .ok exposed) :
    runs = [] ∧ exposed = [] ∨
      ∃ run rest flagged value line, runs = run :: rest ∧ run.item (.int 0) = .ok flagged ∧
        flagged.itemNamed "line" = .ok value ∧ value.joined = .ok line ∧
        exposed = [.exposure (mentioned criticalContexts line) line,
          .exposure (mentioned criticalSecrets line) line] := by
  cases runs with
  | nil => exact .inl ⟨rfl, (pure_ok.mp h).symm⟩
  | cons run rest =>
    obtain ⟨flagged, hflagged, h⟩ := bind_ok.mp h
    obtain ⟨value, hvalue, h⟩ := bind_ok.mp h
    obtain ⟨line, hline, h⟩ := bind_ok.mp h
    exact .inr ⟨run, rest, flagged, value, line, rfl, hflagged, hvalue, hline, (pure_ok.mp h).symm⟩

theorem entryOf_ok {name : Value} {report : FileReport} {entry : WorkflowReport} :
    entryOf name report = .ok entry ↔
      name.checkKey = .ok () ∧ Entries.lookup? name report = some entry := by
  unfold entryOf
  rw [bind_ok]
  constructor
  · rintro ⟨⟨⟩, hkey, h⟩
    cases hfound : Entries.lookup? name report with
    | none => rw [hfound] at h; cases h
    | some found =>
      rw [hfound, pure_ok] at h
      exact ⟨hkey, congrArg some h⟩
  · rintro ⟨hkey, hfound⟩
    exact ⟨(), hkey, by rw [hfound]; rfl⟩

@[simp] theorem addIssues_nil (name : Value) (report : FileReport) :
    addIssues name [] report = .ok report := rfl

/-- Issues are added to an entry that is there. -/
theorem addIssues_of_entry {name : Value} {report : FileReport} {entry : WorkflowReport}
    (hkey : name.checkKey = .ok ()) (h : Entries.lookup? name report = some entry)
    (hsame : Entries.insert name entry report = report) (issues : List Issue) :
    addIssues name issues report =
      .ok (Entries.insert name { entry with issues := entry.issues ++ issues } report) := by
  cases issues with
  | nil => rw [addIssues_nil, List.append_nil, hsame]
  | cons issue rest =>
    have hentry := entryOf_ok.mpr ⟨hkey, h⟩
    show (entryOf name report >>= fun entry => pure _) = _
    rw [hentry]
    rfl

theorem addIssues_insert {name : Value} (hkey : name.checkKey = .ok ()) (entry : WorkflowReport)
    (report : FileReport) (issues : List Issue) :
    addIssues name issues (Entries.insert name entry report) =
      .ok (Entries.insert name { entry with issues := entry.issues ++ issues } report) := by
  rw [addIssues_of_entry hkey (Entries.lookup?_insert_self name entry report)
    (Entries.insert_insert name entry entry report), Entries.insert_insert]

theorem addIssues_cons_ok {name : Value} {report report' : FileReport} {issue : Issue}
    {rest : List Issue} :
    addIssues name (issue :: rest) report = .ok report' ↔
      ∃ entry, name.checkKey = .ok () ∧ Entries.lookup? name report = some entry ∧
        Entries.insert name { entry with issues := entry.issues ++ issue :: rest } report =
          report' := by
  show (entryOf name report >>= fun entry => pure _) = _ ↔ _
  rw [bind_ok]
  simp only [entryOf_ok, pure_ok, and_assoc]

/-- Issues added in two steps are added in one. -/
theorem addIssues_append (name : Value) (first second : List Issue) (report : FileReport) :
    addIssues name (first ++ second) report =
      addIssues name first report >>= addIssues name second := by
  cases first with
  | nil => rfl
  | cons issue rest =>
    show (entryOf name report >>= fun entry => pure _) =
      (entryOf name report >>= fun entry => pure _) >>= addIssues name second
    rw [bind_assoc]
    cases hentry : entryOf name report with
    | error failure => rfl
    | ok entry =>
      obtain ⟨hkey, -⟩ := entryOf_ok.mp hentry
      -- the second addition finds the entry that the first has left, and replaces it
      show _ = addIssues name second (Entries.insert name _ report)
      rw [addIssues_insert hkey]
      simp only [List.append_assoc]
      rfl

/-- Judging uses one after the other adds the issues of all of them, if every one can be judged. -/
theorem foldlM_judge_ok {name tags : Value} {uses : List Findings.ActionUse}
    {report report' : FileReport} (h : uses.foldlM (judge name tags) report = .ok report') :
    addIssues name (uses.flatMap (useIssues tags)) report = .ok report' ∧
      ∀ use ∈ uses, ∃ verdict, useLabels tags use = .ok verdict := by
  induction uses generalizing report with
  | nil =>
    rw [List.foldlM_nil, pure_ok] at h
    exact ⟨congrArg _ h, fun use huse => by cases huse⟩
  | cons use rest ih =>
    obtain ⟨mid, hmid, hrest⟩ := foldlM_ok_cons.mp h
    obtain ⟨verdict, hverdict, hadded⟩ := bind_ok.mp hmid
    obtain ⟨hissues, hall⟩ := ih hrest
    have huse : useIssues tags use = verdict.1.map (Issue.about use.job) := by
      unfold useIssues
      rw [hverdict]
    refine ⟨?_, ?_⟩
    · rw [List.flatMap_cons, addIssues_append, huse]
      exact bind_ok.mpr ⟨mid, hadded, hissues⟩
    · intro other hother
      rcases List.mem_cons.mp hother with rfl | hother
      · exact ⟨verdict, hverdict⟩
      · exact hall other hother

/-! ## The entry of a workflow -/

/-- The triggers that a workflow is entered for: a mapping is a single one. -/
def eventList : Value → Except Failure (List Value)
  | .map kind entries => pure [.map kind entries]
  | events => events.items

theorem enter_eq (name events : Value) (report : FileReport) :
    enter name events report = (do
      (← eventList events).foldlM (fun report event => do
        enter.enterOne name report (← event.field "type") (← event.field "security_rank"))
          report) := by
  cases events with
  | map kind entries =>
    simp only [eventList, pure_bind, List.foldlM_cons, List.foldlM_nil, bind_pure]
    rfl
  | _ => rfl

/-- A trigger gives the type and the rank of an entry. -/
def IsTrigger (trigger : Value × Value) (event : Value) : Prop :=
  event.field "type" = .ok trigger.1 ∧ event.field "security_rank" = .ok trigger.2

/-- A workflow without triggers leaves a report as it is; any other workflow gets a new entry, with
its last trigger and without issues. -/
theorem enter_ok {name events : Value} {report entered : FileReport}
    (h : enter name events report = .ok entered) :
    ∃ list, eventList events = .ok list ∧
      (list = [] ∧ entered = report ∨
        ∃ trigger last, list.getLast? = some last ∧ IsTrigger trigger last ∧
          name.checkKey = .ok () ∧ entered = Entries.insert name ⟨trigger, []⟩ report) := by
  rw [enter_eq] at h
  replace ⟨list, hlist, h⟩ := bind_ok.mp h
  refine ⟨list, hlist, ?_⟩
  clear hlist
  induction list generalizing report with
  | nil =>
    rw [List.foldlM_nil, pure_ok] at h
    exact .inl ⟨rfl, h.symm⟩
  | cons event rest ih =>
    obtain ⟨mid, hmid, hrest⟩ := foldlM_ok_cons.mp h
    obtain ⟨type, htype, hmid⟩ := bind_ok.mp hmid
    obtain ⟨rank, hrank, hmid⟩ := bind_ok.mp hmid
    obtain ⟨⟨⟩, hkey, hmid⟩ := bind_ok.mp hmid
    rw [pure_ok] at hmid
    right
    -- a later trigger replaces the entry, so the last one stays
    rcases ih hrest with ⟨rfl, rfl⟩ | ⟨trigger, last, hlast, htrigger, -, rfl⟩
    · exact ⟨(type, rank), event, rfl, ⟨htype, hrank⟩, hkey, hmid.symm⟩
    · refine ⟨trigger, last, ?_, htrigger, hkey, ?_⟩
      · rw [List.getLast?_cons, hlast]
        rfl
      · rw [← hmid, Entries.insert_insert]

/-! ## What is read off a workflow -/

/-- All that a report takes from a workflow. -/
structure Reading where
  name : Value
  events : Value
  runs : List Value
  uses : List Findings.ActionUse
  permissions : Findings.Permissions
  /-- The issues of the first flagged line. -/
  exposed : List Issue

/-- What is read off a workflow is what its questions answer. -/
structure Reads (workflow : Value) (r : Reading) : Prop where
  name : workflow.field "name" = .ok r.name
  events : workflow.field "events" = .ok r.events
  runs : Findings.flaggedRuns workflow = .ok r.runs
  uses : Findings.actionUses workflow = .ok r.uses
  permissions : Findings.permissions workflow = .ok r.permissions
  exposed : exposures r.runs = .ok r.exposed

/-- The issues of a workflow, for given tags. -/
def Reading.issues (r : Reading) (tags : Value) : List Issue :=
  r.exposed ++ permissionIssues r.permissions ++ r.uses.flatMap (useIssues tags)

/-- **What an assessed workflow gains.**  The workflow is entered, and its issues are added to its
entry: those of its first flagged line, of its jobs without permissions, and of its uses of actions,
each of which could be judged. -/
theorem assess_ok {tags workflow : Value} {before after : FileReport}
    (h : assess tags before workflow = .ok after) :
    ∃ r entered, Reads workflow r ∧ enter r.name r.events before = .ok entered ∧
      addIssues r.name (r.issues tags) entered = .ok after ∧
      ∀ use ∈ r.uses, ∃ verdict, useLabels tags use = .ok verdict := by
  obtain ⟨o, hopened, hjudged⟩ := bind_ok.mp h
  unfold opened at hopened
  obtain ⟨runs, hruns, hopened⟩ := bind_ok.mp hopened
  obtain ⟨uses, huses, hopened⟩ := bind_ok.mp hopened
  obtain ⟨permissions, hpermissions, hopened⟩ := bind_ok.mp hopened
  obtain ⟨name, hname, hopened⟩ := bind_ok.mp hopened
  obtain ⟨events, hevents, hopened⟩ := bind_ok.mp hopened
  obtain ⟨entered, hentered, hopened⟩ := bind_ok.mp hopened
  -- the look at the entry changes nothing when it succeeds
  obtain ⟨exposed, hexposed, hopened⟩ :
      ∃ exposed, exposures runs = .ok exposed ∧
        (addIssues name exposed entered >>= fun report =>
          addIssues name (permissionIssues permissions) report >>= fun report =>
            pure ⟨name, report, uses⟩) = .ok o := by
    cases runs with
    | nil => exact bind_ok.mp hopened
    | cons run rest =>
      obtain ⟨entry, hentry, hopened⟩ := bind_ok.mp hopened
      exact bind_ok.mp hopened
  obtain ⟨report₁, h₁, hopened⟩ := bind_ok.mp hopened
  obtain ⟨report₂, h₂, hopened⟩ := bind_ok.mp hopened
  obtain rfl := pure_ok.mp hopened
  obtain ⟨hissues, hall⟩ := foldlM_judge_ok hjudged
  refine ⟨⟨name, events, runs, uses, permissions, exposed⟩, entered,
    ⟨hname, hevents, hruns, huses, hpermissions, hexposed⟩, hentered, ?_, hall⟩
  show addIssues name (exposed ++ permissionIssues permissions ++ _) entered = _
  rw [addIssues_append, addIssues_append]
  exact bind_ok.mpr ⟨report₂, bind_ok.mpr ⟨report₁, h₁, h₂⟩, hissues⟩

/-! ## Files and reports -/

/-- The report of a file grows by workflows, each assessed with the tags that came for it. -/
inductive Assembled : FileReport → List Value → FileReport → Prop where
  | nil (report : FileReport) : Assembled report [] report
  | cons {tags workflow : Value} {rest : List Value} {report mid report' : FileReport}
    (h : assess tags report workflow = .ok mid) (hrest : Assembled mid rest report') :
    Assembled report (workflow :: rest) report'

theorem Assembled.split {earlier later : List Value} {workflow : Value}
    {report report' : FileReport}
    (h : Assembled report (earlier ++ workflow :: later) report') :
    ∃ tags before after, Assembled report earlier before ∧ assess tags before workflow = .ok after ∧
      Assembled after later report' := by
  induction earlier generalizing report with
  | nil =>
    cases h with
    | cons hassess hrest => exact ⟨_, report, _, .nil report, hassess, hrest⟩
  | cons first earlier ih =>
    cases h with
    | cons hassess hrest =>
      obtain ⟨tags, before, after, hbefore, hworkflow, hafter⟩ := ih hrest
      exact ⟨tags, before, after, .cons hassess hbefore, hworkflow, hafter⟩

/-- What each workflow keeps, the whole file keeps. -/
theorem Assembled.induct {P : FileReport → Prop} {workflows : List Value}
    {report report' : FileReport}
    (h : Assembled report workflows report') (hstart : P report)
    (hstep : ∀ tags found workflow found', workflow ∈ workflows →
      assess tags found workflow = .ok found' → P found → P found') : P report' := by
  induction h with
  | nil report => exact hstart
  | cons hassess _ ih =>
    refine ih (hstep _ _ _ _ List.mem_cons_self hassess hstart) ?_
    exact fun tags found workflow found' hworkflow =>
      hstep tags found workflow found' (List.mem_cons_of_mem _ hworkflow)

/-- Workflows that are assessed with the same tags make up a report as well. -/
theorem assembled_of_foldlM {tags : Value} {workflows : List Value} {report report' : FileReport}
    (h : workflows.foldlM (assess tags) report = .ok report') :
    Assembled report workflows report' := by
  induction workflows generalizing report with
  | nil =>
    obtain rfl := pure_ok.mp h
    exact .nil report
  | cons workflow rest ih =>
    obtain ⟨mid, hassess, hrest⟩ := foldlM_ok_cons.mp h
    exact .cons hassess (ih hrest)

/-- The report of a file is assembled from the workflows listed for it. -/
theorem ofFile_ok {listed : Value} {report : FileReport}
    (h : (ofFile fetchTags listed).perform s = (.ok report, s')) :
    ∃ workflows, listed.items = .ok workflows ∧ Assembled [] workflows report := by
  replace ⟨workflows, s₁, hcheck, h⟩ := perform_bind_ok.mp h
  obtain ⟨hitems, rfl⟩ := perform_check_ok.mp hcheck
  refine ⟨workflows, hitems, ?_⟩
  clear hcheck hitems
  generalize ([] : FileReport) = start at h ⊢
  induction workflows generalizing start s with
  | nil =>
    obtain ⟨rfl, -⟩ := perform_pure_ok.mp h
    exact .nil start
  | cons workflow rest ih =>
    obtain ⟨mid, s₁, hfirst, hrest⟩ := foldlM_cons_ok.mp h
    obtain ⟨tags, -, -, hassess⟩ := addWorkflow_ok hfirst
    exact .cons hassess (ih mid hrest)

/-- A file that was added has a report of its own, which comes from what is listed for it. -/
theorem perform_addFile_ok {tagsFor : Value → Audit Value} {kind : MapKind} {entries : Entries}
    {report report' : Report} {file listed : Value}
    (hlisted : Entries.lookup? file entries = some listed)
    (h : (addFile tagsFor (.map kind entries) report file).perform s = (.ok report', s')) :
    ∃ fileReport, (ofFile (tagsFor file) listed).perform s = (.ok fileReport, s') ∧
      report' = Entries.insert file fileReport report := by
  obtain ⟨⟨⟩, s₁, hcheck, h⟩ := perform_bind_ok.mp h
  obtain ⟨-, rfl⟩ := perform_check_ok.mp hcheck
  obtain ⟨_, s₁, hcheck, h⟩ := perform_bind_ok.mp h
  obtain ⟨hentries, rfl⟩ := perform_check_ok.mp hcheck
  obtain rfl := pure_ok.mp hentries
  obtain ⟨fileReport, s₁, hofFile, h⟩ := perform_bind_ok.mp h
  obtain ⟨rfl, rfl⟩ := perform_pure_ok.mp h
  rw [hlisted] at hofFile
  exact ⟨fileReport, hofFile, rfl⟩

/-- What a report says of a file comes from the workflows listed for it. -/
def FileOf (source : Value × Value) (found : Value × FileReport) : Prop :=
  found.1 = source.1 ∧ ∃ workflows, source.2.items = .ok workflows ∧ Assembled [] workflows found.2

/-- **What a report is made of.**  A report that was built has an entry for each file, which comes
from the workflows listed for it. -/
theorem build_ok {tagsFor : Value → Audit Value} {kind : MapKind} {entries : Entries}
    {report : Report} (hdistinct : Entries.Distinct entries)
    (h : (build tagsFor (.map kind entries)).perform s = (.ok report, s')) :
    Entries.Entered FileOf [] entries report := by
  rw [build_eq] at h
  replace ⟨files, s₁, hcheck, h⟩ := perform_bind_ok.mp h
  obtain ⟨hitems, rfl⟩ := perform_check_ok.mp hcheck
  obtain rfl := pure_ok.mp hitems
  -- the induction is over the files that are left, with any report so far
  suffices hrest : ∀ (todo : Entries) (found : Report) (s : Session), todo ⊆ entries →
      ((Entries.keys todo).foldlM (addFile tagsFor (.map kind entries)) found).perform s =
        (.ok report, s') → Entries.Entered FileOf found todo report from
    hrest entries [] s (List.Subset.refl _) h
  clear h hcheck hitems
  intro todo
  induction todo with
  | nil =>
    intro found s _ h
    obtain ⟨rfl, -⟩ := perform_pure_ok.mp h
    exact .nil found
  | cons entry rest ih =>
    intro found s hsub h
    obtain ⟨file, listed⟩ := entry
    obtain ⟨mid, s₁, hfile, hrest⟩ := foldlM_cons_ok.mp h
    have hlisted : Entries.lookup? file entries = some listed :=
      Entries.lookup?_of_mem hdistinct (hsub List.mem_cons_self)
    obtain ⟨fileReport, hofFile, rfl⟩ := perform_addFile_ok hlisted hfile
    obtain ⟨workflows, hitems, hassembled⟩ := ofFile_ok hofFile
    exact .cons ⟨rfl, workflows, hitems, hassembled⟩
      (ih _ s₁ (fun e he => hsub (List.mem_cons_of_mem _ he)) hrest)

/-- A report has an entry for each of its files. -/
theorem exists_fileReport {entries : Entries} {report : Report} {file listed : Value}
    (hdistinct : Entries.Distinct entries) (h : Entries.Entered FileOf [] entries report)
    (hfile : (file, listed) ∈ entries) :
    ∃ fileReport workflows, Entries.lookup? file report = some fileReport ∧
      listed.items = .ok workflows ∧ Assembled [] workflows fileReport := by
  obtain ⟨file', fileReport, ⟨hname, workflows, hitems, hassembled⟩, hlookup⟩ :=
    h.exists_lookup? (hdistinct.keysDiffer fun _ _ hfound => hfound.1) hfile
  obtain rfl : file' = file := hname
  exact ⟨fileReport, workflows, hlookup, hitems, hassembled⟩

/-- The report of a file, for given tags. -/
def assessFile (tags listed : Value) : Except Failure FileReport := do
  (← listed.items).foldlM (assess tags) []

/-- The report with one more file, for given tags. -/
def assessInto (tags files : Value) (report : Report) (file : Value) : Except Failure Report := do
  file.checkKey
  let entries ← files.entriesFor "get"
  let fileReport ← assessFile tags ((Entries.lookup? file entries).getD .null)
  return Entries.insert file fileReport report

/-- The report of extracted workflows, for given tags. -/
def assessAll (tags files : Value) : Except Failure Report := do
  (← files.items).foldlM (assessInto tags files) []

theorem gives_ofFile {scene : Scene into} {tags : Value} (hwithin : fetchTags.Within into)
    (hfetch : scene.Gives fetchTags (.ok tags)) (listed : Value) :
    scene.Gives (ofFile fetchTags listed) (assessFile tags listed) := by
  refine (Scene.gives_check _).bind (fun items => ?_) fun items => ?_
  · exact .foldlM (fun report workflow => within_addWorkflow hwithin report workflow) items []
  · exact .foldlM (fun report workflow => within_addWorkflow hwithin report workflow)
      (fun report workflow _ => gives_addWorkflow hwithin hfetch report workflow) []

theorem gives_addFile {scene : Scene into} {tagsFor : Value → Audit Value} {tags file : Value}
    {files : Value} (hwithin : (tagsFor file).Within into)
    (hfile : ∀ entries, files.entriesFor "get" = .ok entries →
      scene.Gives (ofFile (tagsFor file) ((Entries.lookup? file entries).getD .null))
        (assessFile tags ((Entries.lookup? file entries).getD .null))) (report : Report) :
    scene.Gives (addFile tagsFor files report file) (assessInto tags files report file) := by
  have hrest : ∀ listed, (ofFile (tagsFor file) listed >>= fun found =>
      (pure (Entries.insert file found report) : Audit Report)).Within into := fun listed =>
    (within_ofFile hwithin listed).bind fun found => .pure _
  unfold addFile assessInto
  refine (Scene.gives_check _).bind (fun _ => (Within.check _).bind fun entries => hrest _)
    fun _ => ?_
  cases hentries : files.entriesFor "get" with
  | error failure => exact Scene.gives_check (.error failure)
  | ok entries =>
    exact (hfile entries hentries).bind (fun found => .pure _) fun found => Scene.gives_pure _

/-- Building a report comes to the assessment of its files where making the report of each file
does. -/
theorem gives_build_of_files {scene : Scene into} {tagsFor : Value → Audit Value}
    {tags files : Value} (hwithin : ∀ file, (tagsFor file).Within into)
    (hfiles : ∀ names entries, files.items = .ok names → files.entriesFor "get" = .ok entries →
      ∀ file ∈ names, scene.Gives
        (ofFile (tagsFor file) ((Entries.lookup? file entries).getD .null))
        (assessFile tags ((Entries.lookup? file entries).getD .null))) :
    scene.Gives (build tagsFor files) (assessAll tags files) := by
  rw [build_eq]
  unfold assessAll
  cases hitems : files.items with
  | error failure =>
    -- files that cannot be gone through need no tags
    intro s hs _
    rw [perform_check_bind]
    exact ⟨rfl, hs⟩
  | ok names =>
    exact .foldlM (fun report file => within_addFile hwithin files report file)
      (fun report file hfile => gives_addFile (hwithin file)
        (fun entries hentries => hfiles names entries hitems hentries file hfile) report) []

/-- **Building a report is a check of values**, where the tags of each file are fetched with one
known result: it comes to the assessment of its files with these tags, failures included. -/
theorem gives_build {scene : Scene into} {tagsFor : Value → Audit Value} {tags files : Value}
    (hwithin : ∀ file, (tagsFor file).Within into)
    (hfetch : ∀ names, files.items = .ok names → ∀ file ∈ names,
      scene.Gives (tagsFor file) (.ok tags)) :
    scene.Gives (build tagsFor files) (assessAll tags files) :=
  gives_build_of_files hwithin fun names _ hitems _ file hfile =>
    gives_ofFile (hwithin file) (hfetch names hitems file hfile) _

/-- The place of a workflow in a report: what the report of its file was before and after it, and
what was read off it. -/
structure Place (report : Report) (file : Value) (earlier : List Value) (workflow : Value)
    (later : List Value) where
  fileReport : FileReport
  before : FileReport
  entered : FileReport
  after : FileReport
  reading : Reading
  tags : Value
  found : Entries.lookup? file report = some fileReport
  earlier_assembled : Assembled [] earlier before
  reads : Reads workflow reading
  entered_eq : enter reading.name reading.events before = .ok entered
  after_eq : addIssues reading.name (reading.issues tags) entered = .ok after
  later_assembled : Assembled after later fileReport
  judged : ∀ use ∈ reading.uses, ∃ verdict, useLabels tags use = .ok verdict

/-- Every workflow that is listed for a file has its place in the report. -/
theorem exists_place {entries : Entries} {report : Report} {file listed workflow : Value}
    {earlier later : List Value} (hdistinct : Entries.Distinct entries)
    (h : Entries.Entered FileOf [] entries report) (hfile : (file, listed) ∈ entries)
    (hlisted : listed.items = .ok (earlier ++ workflow :: later)) :
    Nonempty (Place report file earlier workflow later) := by
  obtain ⟨fileReport, workflows, hfound, hitems, hassembled⟩ := exists_fileReport hdistinct h hfile
  obtain rfl : earlier ++ workflow :: later = workflows := Except.ok.inj (hlisted.symm.trans hitems)
  obtain ⟨tags, before, after, hearlier, hassess, hlater⟩ := hassembled.split
  obtain ⟨reading, entered, hreads, hentered, hadded, hjudged⟩ := assess_ok hassess
  exact ⟨⟨fileReport, before, entered, after, reading, tags, hfound, hearlier, hreads, hentered,
    hadded, hlater, hjudged⟩⟩

/-! ## The stored and the written report -/

/-- The document in which a report is stored under an identifier. -/
def document (id content : Value) : Value :=
  .record [("wfID", id), ("vulns", content)]

/-- A report is stored as soon as it is built. -/
theorem perform_store (files id repository : Value) (s : Session) :
    ((store files id repository).perform s).1 =
      Report.toValue Label.description <$>
        ((build (fun _ => Release.tags repository) files).perform s).1 := by
  unfold store
  rw [perform_bind]
  rcases (build (fun _ => Release.tags repository) files).perform s with ⟨outcome, s₁⟩
  cases outcome with
  | error failure => rfl
  | ok report => rfl

/-- A stored report is built first, and then put at the end of its collection. -/
theorem perform_store_ok {files id repository content : Value} :
    (store files id repository).perform s = (.ok content, s') ↔
      ∃ report s₁, (build (fun _ => Release.tags repository) files).perform s = (.ok report, s₁) ∧
        content = Report.toValue Label.description report ∧
        s' = s₁.inserted storedReports (document id content) := by
  unfold store
  rw [perform_bind_ok]
  constructor
  · rintro ⟨report, s₁, hbuild, hrest⟩
    rw [perform_bind, perform_insert] at hrest
    obtain ⟨rfl, rfl⟩ := perform_pure_ok.mp hrest
    exact ⟨report, s₁, hbuild, rfl, rfl⟩
  · rintro ⟨report, s₁, hbuild, rfl, rfl⟩
    refine ⟨report, s₁, hbuild, ?_⟩
    rw [perform_bind, perform_insert]
    rfl

/-- A value whose text can be made is written, and any other empties its file. -/
theorem perform_writeValue (path : String) (content : Value) (s : Session) :
    (writeValue path content).perform s =
      match Json.write content with
      | .ok text => (Audit.writeText path text).perform s
      | .error failure =>
        match s.files.writeText path [] with
        | .ok emptied => (.error failure, { s with files := emptied })
        | .error problem => (.error problem, s) := by
  unfold writeValue
  rw [perform_bind, perform_writeText]
  cases hemptied : s.files.writeText path [] with
  | error problem =>
    cases Json.write content with
    | error failure => rfl
    | ok text =>
      dsimp only
      rw [perform_writeText, Files.writeText_of_error hemptied]
  | ok emptied =>
    dsimp only
    rw [perform_check_bind]
    cases Json.write content with
    | error failure => rfl
    | ok text =>
      dsimp only
      rw [perform_writeText, perform_writeText, Files.writeText_again hemptied]
      cases hwritten : s.files.writeText path text with
      | ok written => rfl
      | error problem => cases hemptied.symm.trans (Files.writeText_of_error hwritten [])

/-- Writing a value changes the files and nothing else. -/
theorem exists_files_of_writeValue (path : String) (content : Value) (s : Session) :
    ∃ files, ((writeValue path content).perform s).2 = { s with files := files } := by
  rw [perform_writeValue]
  cases Json.write content with
  | ok text =>
    dsimp only
    rw [perform_writeText]
    cases s.files.writeText path text with
    | ok written => exact ⟨written, rfl⟩
    | error problem => exact ⟨s.files, rfl⟩
  | error failure =>
    cases s.files.writeText path [] with
    | ok emptied => exact ⟨emptied, rfl⟩
    | error problem => exact ⟨s.files, rfl⟩

/-- The settings and the files lead to saved workflows. -/
def Saves (settings : Entries) (s : Session) (files : Value) : Prop :=
  ∃ source path, setting "source" settings = .ok source ∧ savedWorkflows source = .ok path ∧
    s.files.readSaved path = .ok files

/-- Where workflows are saved, their report is built and then written. -/
theorem perform_write {settings : Entries} {files : Value} (hsaved : Saves settings s files) :
    (write settings).perform s =
      (build Report.fetchTags files >>= fun report =>
        Audit.check (setting "dest" settings) >>= fun destination =>
          Audit.check destination.shown >>= fun path =>
            writeValue (String.ofList path) (Report.toValue Label.name report)).perform s := by
  obtain ⟨source, path, hsource, hpath, hread⟩ := hsaved
  unfold write
  rw [perform_check_bind, hsource]
  dsimp only
  rw [perform_check_bind, hpath]
  dsimp only
  rw [perform_bind, perform_readSaved, hread]

/-- A report that cannot be built is not written. -/
theorem perform_write_of_error {settings : Entries} {files : Value} {failure : Failure}
    (hsaved : Saves settings s files)
    (hbuild : (build Report.fetchTags files).perform s = (.error failure, s')) :
    (write settings).perform s = (.error failure, s') := by
  rw [perform_write hsaved, perform_bind, hbuild]

/-- A report that was built goes to the destination. -/
theorem perform_write_of_ok {settings : Entries} {files destination : Value} {report : Report}
    (hsaved : Saves settings s files) (hdestination : setting "dest" settings = .ok destination)
    (hshown : destination.isShowable = true)
    (hbuild : (build Report.fetchTags files).perform s = (.ok report, s')) :
    (write settings).perform s = (writeValue (String.ofList destination.displayed)
      (Report.toValue Label.name report)).perform s' := by
  rw [perform_write hsaved, perform_bind, hbuild]
  dsimp only
  rw [hdestination, perform_check_bind]
  dsimp only
  rw [Value.shown_of_isShowable hshown, perform_check_bind]

/-- A written report is built from the saved workflows, and its text goes where the run found the
files. -/
theorem exists_build_of_write {settings : Entries} {files : Value} (hsaved : Saves settings s files)
    (h : (write settings).perform s = (.ok (), s')) :
    ∃ report s₁ destination text, (build Report.fetchTags files).perform s = (.ok report, s₁) ∧
      setting "dest" settings = .ok destination ∧
      Json.write (Report.toValue Label.name report) = .ok text ∧
      s.files.writeText (String.ofList destination.displayed) text = .ok s'.files := by
  rw [perform_write hsaved] at h
  obtain ⟨report, s₁, hbuild, h⟩ := perform_bind_ok.mp h
  obtain ⟨destination, s₂, hcheck, h⟩ := perform_bind_ok.mp h
  obtain ⟨hdestination, rfl⟩ := perform_check_ok.mp hcheck
  obtain ⟨path, s₂, hcheck, h⟩ := perform_bind_ok.mp h
  obtain ⟨hpath, rfl⟩ := perform_check_ok.mp hcheck
  obtain ⟨-, rfl⟩ := Value.shown_ok.mp hpath
  -- fetching tags leaves the files alone
  have hchanges : Session.Changes [] s _ := within_build within_fetchTags files s
  rw [hbuild] at hchanges
  rw [perform_writeValue] at h
  cases htext : Json.write (Report.toValue Label.name report) with
  | error failure =>
    rw [htext] at h
    cases hemptied : s₁.files.writeText (String.ofList destination.displayed) [] <;>
      rw [hemptied] at h <;> cases h
  | ok text =>
    rw [htext] at h
    dsimp only at h
    rw [perform_writeText] at h
    cases hwritten : s₁.files.writeText (String.ofList destination.displayed) text with
    | error failure =>
      rw [hwritten] at h
      cases h
    | ok written =>
      rw [hwritten] at h
      cases h
      rw [hchanges.files_eq] at hwritten
      exact ⟨report, s₁, destination, text, hbuild, hdestination, htext, hwritten⟩

/-! ### Small cases -/

/-- The settings that ask for a report in the working directory of what is saved there. -/
def hereToOut : Entries := [(.text "source", .text "."), (.text "dest", .text "out.json")]

/-- Workflows that are saved in the working directory are found there. -/
theorem saves_here {workflows : Value}
    (hfiles : s.files = [(["savedDictWfs.dat"], .saved workflows)]) :
    Saves hereToOut s workflows := by
  have hpath : savedWorkflows (.text ".") = .ok "./savedDictWfs.dat" := by rfl
  have hpieces : (Text.pieces '/' "./savedDictWfs.dat".toList).map String.ofList =
      [".", "savedDictWfs.dat"] := by decide +kernel
  have hinside : ¬ ("./savedDictWfs.dat".isEmpty ∨ "./savedDictWfs.dat".startsWith "/" ∨
      Files.target.leavesWorkingDirectory 0 [".", "savedDictWfs.dat"]) := by decide +kernel
  have htarget : Files.target [(["savedDictWfs.dat"], .saved workflows)] "./savedDictWfs.dat" =
      .found ["savedDictWfs.dat"] (.saved workflows) := by
    unfold Files.target
    rw [hpieces, if_neg hinside]
    rfl
  refine ⟨.text ".", _, rfl, hpath, ?_⟩
  unfold Files.readSaved Files.openFile
  rw [hfiles, htarget]
  rfl

/-- Whether a run returns a value that means the same as a given one. -/
def returns (outcome : Except Failure Value) (content : Value) : Bool :=
  match outcome with
  | .ok found => found.equal content
  | .error _ => false

/-- The files of a repository with one workflow. -/
def oneFile (workflow : Value) : Entries :=
  [(.text "own/repo", .plainList [workflow])]

end Report

end WorkflowAudit
