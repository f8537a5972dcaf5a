import WorkflowAudit.Proofs.Changes

/-! # What an extraction looks up

The extraction of a workflow talks to its session in one way only: for each step that uses an action
it looks up whether the action is up to date.  Which lookups these are, in which order, and whether
anything else stands in the way can be told from the text (`Extraction.sketch?`).

A task *looks up* some uses when it succeeds exactly if lookups of these, one after the other, do,
and then leaves the session that they leave (`Audit.LooksUp`).  A failed lookup is caught, and the
record of the workflow is left without jobs.  So a record has jobs if and only if the text has a
sketch and all its lookups succeed: `Extraction.sketched_of_workflow`.
-/
namespace WorkflowAudit

open Audit

namespace Release

/-- Looks up some uses of actions, one after the other. -/
def lookUpAll (uses : List Value) : Audit Unit :=
  uses.forM fun use => isUpToDate use >>= fun _ => pure ()

theorem lookUpAll_append {uses more : List Value} {s s' : Session} :
    (lookUpAll (uses ++ more)).perform s = (.ok (), s') ↔
      ∃ s₁, (lookUpAll uses).perform s = (.ok (), s₁) ∧
        (lookUpAll more).perform s₁ = (.ok (), s') := by
  induction uses generalizing s with
  | nil =>
    constructor
    · intro h
      exact ⟨s, rfl, h⟩
    · rintro ⟨s₁, h, hmore⟩
      obtain ⟨-, rfl⟩ := perform_pure_ok.mp h
      exact hmore
  | cons use uses ih =>
    unfold lookUpAll at ih ⊢
    rw [List.cons_append]
    simp only [forM_cons_ok, ih]
    constructor
    · rintro ⟨s₁, hfirst, s₂, huses, hmore⟩
      exact ⟨s₂, ⟨s₁, hfirst, huses⟩, hmore⟩
    · rintro ⟨s₂, ⟨s₁, hfirst, huses⟩, hmore⟩
      exact ⟨s₁, hfirst, s₂, huses, hmore⟩

end Release

namespace Audit

variable {α β : Type}

/-- A task that succeeds exactly when the lookups of some uses do, and then leaves the session that
they leave; or one that always fails. -/
def LooksUp (task : Audit α) : Option (List Value) → Prop
  | some uses => ∀ s s', (∃ a, task.perform s = (.ok a, s')) ↔
      (Release.lookUpAll uses).perform s = (.ok (), s')
  | none => ∀ s a s', task.perform s ≠ (.ok a, s')

namespace LooksUp

theorem pure (a : α) : (Pure.pure a : Audit α).LooksUp (some []) := by
  intro s s'
  constructor
  · rintro ⟨b, h⟩
    obtain ⟨-, rfl⟩ := perform_pure_ok.mp h
    rfl
  · intro h
    obtain ⟨-, rfl⟩ := perform_pure_ok.mp h
    exact ⟨a, rfl⟩

/-- Tasks in a row look up the uses of the first and then those of the second. -/
theorem bind {task : Audit α} {next : α → Audit β} {uses more : Option (List Value)}
    (h : task.LooksUp uses) (hnext : ∀ a, (next a).LooksUp more) :
    (task >>= next).LooksUp (do
      let uses ← uses
      let more ← more
      return uses ++ more) := by
  cases uses with
  | none =>
    intro s b s' hrun
    obtain ⟨a, s₁, hfirst, -⟩ := perform_bind_ok.mp hrun
    exact h s a s₁ hfirst
  | some uses =>
    cases more with
    | none =>
      intro s b s' hrun
      obtain ⟨a, s₁, -, hsecond⟩ := perform_bind_ok.mp hrun
      exact hnext a s₁ b s' hsecond
    | some more =>
      intro s s'
      rw [Release.lookUpAll_append]
      constructor
      · rintro ⟨b, hrun⟩
        obtain ⟨a, s₁, hfirst, hsecond⟩ := perform_bind_ok.mp hrun
        exact ⟨s₁, (h s s₁).mp ⟨a, hfirst⟩, (hnext a s₁ s').mp ⟨b, hsecond⟩⟩
      · rintro ⟨s₁, hfirst, hsecond⟩
        obtain ⟨a, hfirst⟩ := (h s s₁).mpr hfirst
        obtain ⟨b, hsecond⟩ := (hnext a s₁ s').mpr hsecond
        exact ⟨b, perform_bind_ok.mpr ⟨a, s₁, hfirst, hsecond⟩⟩

/-- A check looks up nothing: it fails, or the task goes on with its result. -/
theorem check_bind {result : Except Failure α} {next : α → Audit β}
    {uses : α → Option (List Value)} (h : ∀ a, (next a).LooksUp (uses a)) :
    (Audit.check result >>= next).LooksUp (result.toOption.bind uses) := by
  cases result with
  | error failure =>
    intro s b s' hrun
    rw [perform_check_bind] at hrun
    cases hrun
  | ok a =>
    have hrun : ∀ s, (Audit.check (.ok a) >>= next).perform s = (next a).perform s :=
      fun s => perform_check_bind _ _ s
    have ha := h a
    show (Audit.check (.ok a) >>= next).LooksUp (uses a)
    cases huses : uses a with
    | none =>
      rw [huses] at ha
      intro s b s'
      rw [hrun]
      exact ha s b s'
    | some found =>
      rw [huses] at ha
      intro s s'
      simp only [hrun]
      exact ha s s'

theorem map (f : α → β) {task : Audit α} {uses : Option (List Value)} (h : task.LooksUp uses) :
    (f <$> task).LooksUp uses := by
  rw [map_eq_pure_bind]
  have hbind := h.bind fun a => LooksUp.pure (f a)
  cases uses with
  | none => exact hbind
  | some uses =>
    rw [← List.append_nil uses]
    exact hbind

theorem isUpToDate (use : Value) : (Release.isUpToDate use).LooksUp (some [use]) := by
  intro s s'
  unfold Release.lookUpAll
  rw [forM_cons_ok]
  constructor
  · rintro ⟨flag, h⟩
    exact ⟨s', perform_bind_ok.mpr ⟨flag, s', h, rfl⟩, rfl⟩
  · rintro ⟨s₁, h, hrest⟩
    obtain ⟨-, rfl⟩ := perform_pure_ok.mp hrest
    obtain ⟨flag, s₂, hflag, hpure⟩ := perform_bind_ok.mp h
    obtain ⟨-, rfl⟩ := perform_pure_ok.mp hpure
    exact ⟨flag, hflag⟩

end LooksUp

end Audit

/-! ## Jobs and steps -/

namespace Extraction

/-- What the script of a step looks up, which is nothing, if it can be read. -/
def scriptUses (jobCondition workflowCondition source script : Value) : Option (List Value) :=
  if script.isNull then some []
  else do
    let _ ← script.splitChars.toOption
    let _ ← script.encodedChars.toOption
    let _ ← (Script.flagged source workflowCondition jobCondition).toOption
    return []

/-- What a step looks up, if nothing else stands in the way of its extraction. -/
def stepUses (jobCondition workflowCondition source : Value) : Option (List Value) := do
  let _ ← (source.field "name").toOption
  let _ ← (source.field "if").toOption
  let uses ← (source.field "uses").toOption
  let script ← (source.field "run").toOption
  let more ← scriptUses jobCondition workflowCondition source script
  return (if uses.isTruthy then [uses] else []) ++ more

/-- What the steps of a job look up. -/
def stepsUses (jobCondition workflowCondition : Value) : List Value → Option (List Value)
  | [] => some []
  | source :: rest => do
    let uses ← stepUses jobCondition workflowCondition source
    let more ← stepsUses jobCondition workflowCondition rest
    return uses ++ more

/-- What a job looks up. -/
def jobUses (workflowCondition source : Value) : Option (List Value) := do
  let _ ← (source.field "name").toOption
  let _ ← (source.field "uses").toOption
  let conditional ← (source.field "if").toOption
  let _ ← (source.field "permissions").toOption
  let sources ← (source.field? "steps").toOption
  let items ← (sources.getD (.plainList [])).items.toOption
  stepsUses (.bool conditional.isTruthy) workflowCondition items

/-- What some jobs look up. -/
def jobEntriesUses (workflowCondition : Value) : Entries → Option (List Value)
  | [] => some []
  | (_, source) :: rest => do
    let uses ← jobUses workflowCondition source
    let more ← jobEntriesUses workflowCondition rest
    return uses ++ more

/-- What the jobs of a workflow look up. -/
def jobsUses (sources workflowCondition : Value) : Option (List Value) := do
  jobEntriesUses workflowCondition (← (sources.entriesFor "items").toOption)

theorem looksUp_step (position : Nat) (jobCondition workflowCondition source : Value) :
    (step position jobCondition workflowCondition source).LooksUp
      (stepUses jobCondition workflowCondition source) := by
  unfold step
  refine .check_bind fun name => .check_bind fun conditional => ?_
  refine .check_bind fun uses => .check_bind fun script => ?_
  extract_lets summarize
  have hrest : ∀ security, (summarize security).LooksUp
      (scriptUses jobCondition workflowCondition source script) := by
    intro security
    unfold summarize scriptUses
    split
    · exact .pure _
    · exact .check_bind fun text => .check_bind fun encoded => .check_bind fun lines => .pure _
  split
  · exact ((LooksUp.isUpToDate uses).map _).bind hrest
  · exact (LooksUp.pure _).bind hrest

theorem looksUp_stepsFrom (jobCondition workflowCondition : Value) (sources : List Value)
    (position : Nat) : (stepsFrom jobCondition workflowCondition position sources).LooksUp
      (stepsUses jobCondition workflowCondition sources) := by
  induction sources generalizing position with
  | nil => exact .pure []
  | cons source rest ih =>
    refine (looksUp_step position jobCondition workflowCondition source).bind fun record => ?_
    exact (ih (position + 1)).map _

theorem looksUp_job (workflowCondition source : Value) :
    (job workflowCondition source).LooksUp (jobUses workflowCondition source) := by
  unfold job
  refine .check_bind fun name => .check_bind fun uses => .check_bind fun conditional => ?_
  refine .check_bind fun permissions => .check_bind fun sources => ?_
  refine LooksUp.map _ (.check_bind fun items => ?_)
  exact looksUp_stepsFrom _ workflowCondition items 1

theorem looksUp_jobEntries (workflowCondition : Value) (entries : Entries) :
    (jobEntries workflowCondition entries).LooksUp (jobEntriesUses workflowCondition entries) := by
  induction entries with
  | nil => exact .pure []
  | cons entry rest ih =>
    obtain ⟨id, source⟩ := entry
    refine (looksUp_job workflowCondition source).bind fun record => ?_
    exact ih.map _

theorem looksUp_jobs (sources workflowCondition : Value) :
    (jobs sources workflowCondition).LooksUp (jobsUses sources workflowCondition) :=
  .check_bind fun entries => looksUp_jobEntries workflowCondition entries

/-! ## Workflows -/

/-- What a text says of a workflow whose jobs can be extracted. -/
structure Sketch where
  heading : Heading
  triggers : Triggers
  /-- The uses of actions that are looked up, in order. -/
  uses : List Value

/-- The sketch of a loaded workflow, if nothing but a lookup can stand in the way of its
extraction. -/
def sketchOf (workflow : Value) : Option Sketch :=
  if workflow.isNull then none
  else
    match headingOf workflow, workflow.field? "on" with
    | .ok heading, .ok (some on) =>
      match triggersOf on with
      | (some triggers, true) =>
        let sources := ((workflow.field? "jobs").toOption.join).getD (.map .plain [])
        (jobsUses sources (.bool heading.conditional.isTruthy)).map fun uses =>
          ⟨heading, triggers, uses⟩
      | _ => none
    | _, _ => none

/-- The sketch of a workflow, from what should be its text. -/
def sketch? : Value → Option Sketch
  | .text s => (Yaml.load s.toList).toOption.bind sketchOf
  | _ => none

/-- A record has jobs exactly when there is a sketch of the workflow whose lookups all succeed, and
then it has the heading and the triggers of the sketch. -/
def Sketched (sketch : Option Sketch) (s : Session) (record : WorkflowRecord) : Prop :=
  match sketch with
  | none => record.jobs = none
  | some sketch => record.heading = some sketch.heading ∧ record.triggers = some sketch.triggers ∧
      record.jobs.isSome = ((Release.lookUpAll sketch.uses).perform s).1.isOk

/-- Triggers that could all be ranked are there. -/
theorem exists_triggers {on : Value} {triggers : Option Triggers}
    (h : triggersOf on = (triggers, true)) : ∃ found, triggers = some found := by
  unfold triggersOf at h
  split at h
  · split at h
    · exact ⟨_, (Prod.mk.inj h).1.symm⟩
    · cases h
  · split at h
    · exact ⟨_, (Prod.mk.inj h).1.symm⟩
    · cases h
  · exact ⟨_, (Prod.mk.inj h).1.symm⟩
  · cases h

/-- A task whose failure is caught gives a result exactly when its lookups succeed. -/
theorem isSome_of_caught {α : Type} {task : Audit α} {uses : Option (List Value)} {found : Option α}
    {s s' : Session} (hlooks : task.LooksUp uses)
    (h : (tryCatch (some <$> task) fun _ => pure none).perform s = (.ok found, s')) :
    found.isSome = uses.any fun uses => ((Release.lookUpAll uses).perform s).1.isOk := by
  rw [perform_tryCatch, map_eq_pure_bind] at h
  rcases hrun : (task >>= fun a => pure (some a)).perform s with ⟨outcome, s₁⟩
  rw [hrun] at h
  cases outcome with
  | ok result =>
    obtain ⟨rfl, rfl⟩ : result = found ∧ s₁ = s' := by simpa using h
    obtain ⟨a, s₂, htask, hpure⟩ := perform_bind_ok.mp hrun
    obtain ⟨rfl, rfl⟩ := perform_pure_ok.mp hpure
    cases uses with
    | none => exact absurd htask (hlooks s a s₂)
    | some uses =>
      rw [Option.any_some, (hlooks s s₂).mp ⟨a, htask⟩]
      rfl
  | error failure =>
    obtain ⟨rfl, -⟩ := perform_pure_ok.mp h
    cases uses with
    | none => rfl
    | some uses =>
      rw [Option.any_some]
      -- lookups that succeed would have let the task succeed
      cases hall : (Release.lookUpAll uses).perform s with
      | mk result s₂ =>
        cases result with
        | error failure' => rfl
        | ok _ =>
          obtain ⟨a, htask⟩ := (hlooks s s₂).mpr hall
          have hok : (task >>= fun a => pure (some a)).perform s = (.ok (some a), s₂) :=
            perform_bind_ok.mpr ⟨a, s₂, htask, rfl⟩
          rw [hrun] at hok
          cases hok

theorem sketched_of_ofDocument {workflow : Value} {record : WorkflowRecord} {s s' : Session}
    (h : (ofDocument workflow).perform s = (.ok record, s')) :
    Sketched (sketchOf workflow) s record := by
  unfold ofDocument at h
  unfold sketchOf
  by_cases hnull : workflow.isNull = true
  · rw [if_pos hnull] at h ⊢
    obtain ⟨rfl, -⟩ := perform_pure_ok.mp h
    rfl
  · rw [if_neg hnull] at h ⊢
    cases hheading : headingOf workflow with
    | error failure =>
      rw [hheading] at h
      obtain ⟨rfl, -⟩ := perform_pure_ok.mp h
      rfl
    | ok heading =>
      rw [hheading] at h
      cases hon : workflow.field? "on" with
      | error failure =>
        rw [hon] at h
        obtain ⟨rfl, -⟩ := perform_pure_ok.mp h
        rfl
      | ok on =>
        rw [hon] at h
        cases on with
        | none =>
          obtain ⟨rfl, -⟩ := perform_pure_ok.mp h
          rfl
        | some on =>
          cases htriggers : triggersOf on with
          | mk triggers complete =>
            simp only [htriggers] at h ⊢
            cases complete with
            | false =>
              obtain ⟨rfl, -⟩ := perform_pure_ok.mp h
              cases triggers <;> rfl
            | true =>
              obtain ⟨found, rfl⟩ := exists_triggers htriggers
              obtain ⟨result, s₁, hcaught, h⟩ := perform_bind_ok.mp h
              obtain ⟨rfl, -⟩ := perform_pure_ok.mp h
              have hsome := isSome_of_caught (looksUp_jobs _ _) hcaught
              cases huses : jobsUses _ _ with
              | none =>
                rw [huses] at hsome
                exact Option.isNone_iff_eq_none.mp (Option.isSome_eq_false_iff.mp hsome)
              | some uses =>
                rw [huses] at hsome
                exact ⟨rfl, rfl, hsome⟩

theorem sketched_of_workflow {text : Value} {record : WorkflowRecord} {s s' : Session}
    (h : (workflow text).perform s = (.ok record, s')) : Sketched (sketch? text) s record := by
  cases text with
  | text source =>
    change (ofText source.toList).perform s = (.ok record, s') at h
    show Sketched ((Yaml.load source.toList).toOption.bind sketchOf) s record
    unfold ofText at h
    cases hload : Yaml.load source.toList with
    | ok document =>
      rw [hload] at h
      exact sketched_of_ofDocument h
    | error fault =>
      rw [hload] at h
      cases fault with
      | lexical =>
        obtain ⟨rfl, -⟩ := perform_pure_ok.mp h
        rfl
      | reference =>
        obtain ⟨rfl, -⟩ := perform_pure_ok.mp h
        rfl
      | failure cause => cases h
  | _ => cases h

end Extraction

end WorkflowAudit
