import WorkflowAudit.Proofs.Shapes

/-! # What is found about actions

A step that uses an action is extracted with a flag, which says whether the action is up to date,
and the reader of actions collects the flags.  Between the two a step with a script loses its flag,
for what is found in the script takes its place.

The flags come from lookups, each made in the session that those before it have left.  So they are
not a matter of one step alone: `Findings.Audited` says of a row of steps which lookups were made
for them, from which session to which, and what is left of the flags.  It holds of one step
(`audited_step`) and passes on to steps in a row (`Audited.append`), and so to jobs and workflows.

`action_findings_exact` says it of every workflow that is extracted with jobs.
-/
namespace WorkflowAudit

open Audit

/-! ## Tasks in a row -/

namespace Audit

variable {α β : Type} {visit : α → Audit β} {items more : List α} {found found' : List β}
  {s s₁ s' : Session}

theorem length_of_mapM (h : (items.mapM visit).perform s = (.ok found, s')) :
    found.length = items.length := by
  induction items generalizing s s' found with
  | nil =>
    obtain ⟨rfl, -⟩ := perform_pure_ok.mp h
    rfl
  | cons a items ih =>
    rw [List.mapM_cons] at h
    obtain ⟨b, s₁, -, h⟩ := perform_bind_ok.mp h
    obtain ⟨rest, s₂, hrest, h⟩ := perform_bind_ok.mp h
    obtain ⟨rfl, -⟩ := perform_pure_ok.mp h
    rw [List.length_cons, List.length_cons, ih hrest]

/-- Tasks behind others are run where these have ended. -/
theorem mapM_append_ok (h : (items.mapM visit).perform s = (.ok found, s₁))
    (hmore : (more.mapM visit).perform s₁ = (.ok found', s')) :
    ((items ++ more).mapM visit).perform s = (.ok (found ++ found'), s') := by
  rw [List.mapM_append]
  exact perform_bind_ok.mpr ⟨found, s₁, h, perform_bind_ok.mpr ⟨found', s', hmore, rfl⟩⟩

end Audit

/-! ## Lookups for steps -/

/-- The steps of a workflow, each with the name of its job, in the order of the document. -/
def Value.namedSteps (workflow : Value) : List (Value × Value) :=
  workflow.jobsIn.flatMap fun job => job.2.stepsIn.map fun step => (job.1, step)

namespace Findings

/-- The steps that use an action. -/
def withAction (steps : List (Value × Value)) : List (Value × Value) :=
  steps.filter fun step => (step.2.under "uses").isTruthy

/-- Looks up, one after the other, whether the actions that steps use are up to date. -/
def lookUpFlags (steps : List (Value × Value)) : Audit (List Bool) :=
  steps.mapM fun step => Release.isUpToDate (step.2.under "uses")

/-- The uses of actions that steps with these flags amount to; a step with a script is left out. -/
def flaggedUses (steps : List (Value × Value)) (flags : List Bool) : List ActionUse :=
  ((steps.zip flags).filter fun found => (found.1.2.under "run").isNull).map fun found =>
    ⟨found.1.1, found.1.2.under "uses", .bool found.2⟩

/-- The lookups for some steps lead from one session to another, and the uses are those with the
flags that they give. -/
def Audited (steps : List (Value × Value)) (uses : List ActionUse) (s s' : Session) : Prop :=
  ∃ flags, (lookUpFlags (withAction steps)).perform s = (.ok flags, s') ∧
    uses = flaggedUses (withAction steps) flags

namespace Audited

variable {steps more : List (Value × Value)} {uses uses' : List ActionUse} {s s₁ s' : Session}

theorem nil (s : Session) : Audited [] [] s s := ⟨[], rfl, rfl⟩

theorem append (h : Audited steps uses s s₁) (h' : Audited more uses' s₁ s') :
    Audited (steps ++ more) (uses ++ uses') s s' := by
  obtain ⟨flags, hflags, rfl⟩ := h
  obtain ⟨flags', hflags', rfl⟩ := h'
  have hsteps : withAction (steps ++ more) = withAction steps ++ withAction more :=
    List.filter_append ..
  refine ⟨flags ++ flags', hsteps ▸ mapM_append_ok hflags hflags', ?_⟩
  unfold flaggedUses
  rw [hsteps, List.zip_append (length_of_mapM hflags).symm, List.filter_append, List.map_append]

end Audited

end Findings

/-! ## Steps and jobs -/

/-- The flag of a step that has one. -/
def StepSecurity.flag? : StepSecurity → Option Bool
  | .upToDate flag => some flag
  | .none | .flaggedLines _ => Option.none

/-- The use of an action that a step of a job has a flag for. -/
def StepRecord.use (job : Value) (step : StepRecord) : List Findings.ActionUse :=
  (step.security.flag?.map fun flag => ⟨job, step.uses, .bool flag⟩).toList

namespace Extraction

open Findings

variable {workflowCondition jobCondition source : Value} {s s' : Session}

/-- A step makes the lookup for its action, and keeps the flag unless it has a script. -/
theorem audited_step {position : Nat} {record : StepRecord} (job : Value)
    (h : (step position jobCondition workflowCondition source).perform s = (.ok record, s')) :
    Audited [(job, source)] (record.use job) s s' := by
  obtain ⟨-, huses, security, hnoted, hscript⟩ := step_ok h
  have hflag : record.security.flag? =
      if (source.under "run").isNull then security.flag? else none := by
    rcases hscript with ⟨hrun, -, hsecurity⟩ | ⟨script, hrun, -, hsecurity⟩
    · rw [hrun, hsecurity]
      rfl
    · rw [hrun, hsecurity]
      rfl
  unfold StepRecord.use
  rw [hflag, huses]
  cases hnoted with
  | @upToDate flag htruthy hlookup =>
    have hkeep : withAction [(job, source)] = [(job, source)] := by simp [withAction, htruthy]
    rw [Audited, hkeep]
    refine ⟨[flag], ?_, ?_⟩
    · rw [lookUpFlags, List.mapM_cons, List.mapM_nil]
      exact perform_bind_ok.mpr ⟨flag, _, hlookup, rfl⟩
    · unfold flaggedUses
      by_cases hnull : (source.under "run").isNull = true
      · simp [hnull, StepSecurity.flag?]
      · simp [hnull]
  | none htruthy hsame =>
    have hdrop : withAction [(job, source)] = [] := by simp [withAction, htruthy]
    rw [Audited, hdrop, hsame]
    refine ⟨[], rfl, ?_⟩
    split <;> rfl

theorem audited_stepsFrom {position : Nat} {sources : List Value} {records : List StepRecord}
    (job : Value)
    (h : (stepsFrom jobCondition workflowCondition position sources).perform s =
      (.ok records, s')) :
    Audited (sources.map fun step => (job, step)) (records.flatMap (StepRecord.use job)) s s' := by
  induction sources generalizing position records s with
  | nil =>
    obtain ⟨rfl, rfl⟩ := perform_pure_ok.mp h
    exact .nil s
  | cons source rest ih =>
    obtain ⟨record, s₁, hfirst, h⟩ := perform_bind_ok.mp h
    obtain ⟨others, s₂, hrest, h⟩ := perform_bind_ok.mp h
    obtain ⟨rfl, rfl⟩ := perform_pure_ok.mp h
    exact (audited_step job hfirst).append (ih hrest)

theorem audited_job {record : JobRecord} (id : Value)
    (h : (job workflowCondition source).perform s = (.ok record, s')) :
    Audited (source.stepsIn.map fun step => (id, step)) (record.steps.flatMap (StepRecord.use id))
      s s' :=
  audited_stepsFrom id (job_ok h).2

theorem audited_jobEntries {entries : Entries} {found : List (Value × JobRecord)}
    (h : (jobEntries workflowCondition entries).perform s = (.ok found, s')) :
    Audited (entries.flatMap fun job => job.2.stepsIn.map fun step => (job.1, step))
      (found.flatMap fun job => job.2.steps.flatMap (StepRecord.use job.1)) s s' := by
  induction entries generalizing found s with
  | nil =>
    obtain ⟨rfl, rfl⟩ := perform_pure_ok.mp h
    exact .nil s
  | cons entry rest ih =>
    obtain ⟨id, source⟩ := entry
    obtain ⟨record, s₁, hfirst, h⟩ := perform_bind_ok.mp h
    obtain ⟨others, s₂, hrest, h⟩ := perform_bind_ok.mp h
    obtain ⟨rfl, rfl⟩ := perform_pure_ok.mp h
    exact (audited_job id hfirst).append (ih hrest)

/-- The jobs of a document make the lookups for its steps. -/
theorem audited_jobs {found : List (Value × JobRecord)}
    (h : (jobs (jobSources source) workflowCondition).perform s = (.ok found, s')) :
    Audited source.namedSteps (found.flatMap fun job => job.2.steps.flatMap (StepRecord.use job.1))
      s s' := by
  obtain ⟨entries, s₁, hcheck, h⟩ := perform_bind_ok.mp h
  obtain ⟨hentries, rfl⟩ := perform_check_ok.mp hcheck
  rw [Value.namedSteps, ← entriesIn_jobSources, Value.entriesIn_of_entriesFor hentries]
  exact audited_jobEntries h

end Extraction

/-! ## Workflows -/

namespace Findings

variable {heading : Heading} {triggers : Triggers} {found : List (Value × JobRecord)}

/-- The reader of actions collects the uses of the steps. -/
theorem actionUses_wholeValue :
    actionUses (wholeValue heading triggers found) =
      .ok (found.flatMap fun job => job.2.steps.flatMap (StepRecord.use job.1)) := by
  have hcollect : actionUses (wholeValue heading triggers found) =
      .ok ((stepsOf found).flatMap fun step => step.2.use step.1) := by
    refine foldSteps_collect (fun known job step => ?_) []
    refine bind_ok.mpr ⟨_, step.field_security, ?_⟩
    unfold StepRecord.use
    cases step.security with
    | none | flaggedLines lines => exact congrArg Except.ok (List.append_nil known).symm
    | upToDate flag => exact bind_ok.mpr ⟨_, rfl, bind_ok.mpr ⟨_, step.field_uses, rfl⟩⟩
  rw [hcollect, stepsOf, List.flatMap_assoc]
  simp only [List.flatMap_map]

/-- What the reader of actions finds in an extracted workflow is left of the flags that were looked
up for its steps. -/
theorem exists_audited {text : String} {s s' : Session} {out : Value}
    (h : (Operation.extractWorkflow (.text text)).run.perform s = (.ok out, s'))
    (hjobs : ¬ out.Lacks "jobs") :
    ∃ source uses, Yaml.load text.toList = .ok source ∧ actionUses out = .ok uses ∧
      Audited source.namedSteps uses s s' := by
  obtain ⟨source, record, found, rfl, hsource, hextracted⟩ := Extraction.exists_extracted h hjobs
  obtain ⟨heading, triggers, on, rfl, -⟩ := hextracted.parts
  exact ⟨source, _, hsource, actionUses_wholeValue, Extraction.audited_jobs hextracted.jobs⟩

/-- **What is found about actions is exact.**  Let a workflow with jobs be extracted from a text, in
any session.  The actions of its steps are looked up in the order of the document, each where the
lookups before it have ended, and that is all that extraction does to the session.  The reader of
actions gets, in the same order, the job, the action and the flag of exactly those steps that use an
action and have no script; a step that has both is looked up too, but it is not among them. -/
theorem action_findings_exact {text : String} {s s' : Session} {out : Value}
    (h : (Operation.extractWorkflow (.text text)).run.perform s = (.ok out, s'))
    (hjobs : ¬ out.Lacks "jobs") :
    ∃ source flags, Yaml.load text.toList = .ok source ∧
      (lookUpFlags (withAction source.namedSteps)).perform s = (.ok flags, s') ∧
      flags.length = (withAction source.namedSteps).length ∧
      actionUses out = .ok (flaggedUses (withAction source.namedSteps) flags) := by
  obtain ⟨source, uses, hsource, huses, flags, hflags, rfl⟩ := exists_audited h hjobs
  exact ⟨source, flags, hsource, hflags, length_of_mapM hflags, huses⟩

/-- A workflow with two jobs.  The first has a step with an action and a script, and the second uses
an older version of the action. -/
def mixedText : String :=
  "\x7bon: push, jobs: \x7ba: \x7bsteps: [\x7buses: own/act@v2, run: ls\x7d]\x7d, " ++
    "b: \x7bsteps: [\x7buses: own/act@v1\x7d]\x7d\x7d\x7d"

/-- The law there: the first flag is lost to the script, and the second is as it was looked up. -/
theorem mixed_findings :
    ∃ out s' source flags,
      (Operation.extractWorkflow (.text mixedText)).run.perform buildSession = (.ok out, s') ∧
      ¬ out.Lacks "jobs" ∧ Yaml.load mixedText.toList = .ok source ∧
      (lookUpFlags (withAction source.namedSteps)).perform buildSession = (.ok flags, s') ∧
      Value.equalItems ((flaggedUses (withAction source.namedSteps) flags).map ActionUse.toValue)
        [.plainList [.text "b", .text "own/act@v1", .bool false]] = true := by
  have hout :
      ((Operation.extractWorkflow (.text mixedText)).run.perform buildSession).1.toOption.any
      (fun out => (Entries.field? "jobs" (Report.entriesIn out)).isSome &&
        (actionUses out).toOption.any fun uses => Value.equalItems (uses.map ActionUse.toValue)
          [.plainList [.text "b", .text "own/act@v1", .bool false]]) = true := by decide +kernel
  obtain ⟨out, s', hrun, hout⟩ := exists_of_any hout
  obtain ⟨hsome, hfound⟩ := Bool.and_eq_true_iff.mp hout
  have hjobs : ¬ out.Lacks "jobs" := Option.isSome_iff_ne_none.mp hsome
  obtain ⟨source, flags, hsource, hflags, -, huses⟩ := action_findings_exact hrun hjobs
  rw [huses] at hfound
  exact ⟨out, s', source, flags, hrun, hjobs, hsource, hflags, hfound⟩

end Findings

end WorkflowAudit
