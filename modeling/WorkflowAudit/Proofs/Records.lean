import WorkflowAudit.Operation
import WorkflowAudit.Proofs.Outlines

/-! # Records and their sources

A workflow document and the record that is extracted from it are laid out alike: both have jobs
under one name, and the jobs have steps under another.  `Value.jobsIn` and `Value.stepsIn` read
either of them, and never fail.

Extraction fails at the first thing that is not as it should be, and a record with jobs has met no
such thing.  So much can be said of it: it has a job for each job of its source and a step for each
step of that, in order and numbered from one, and each step says of the script of its source how
many lines it has and which of them are flagged (`Extraction.jobsOf_of_perform`).  All of it comes
from two lemmas that take the run of a step and the run of a job apart, `Extraction.step_ok` and
`Extraction.job_ok`. `Extraction.exists_source` takes a record with jobs back to its document.
-/
namespace WorkflowAudit

open Audit

/-! ## Reading without failing -/

namespace Value

variable {v w : Value} {name : String}

/-- What stands under a name, null where nothing does. -/
def under (v : Value) (name : String) : Value :=
  (Entries.field? name (Report.entriesIn v)).getD .null

/-- Nothing stands under a name. -/
def Lacks (v : Value) (name : String) : Prop :=
  Entries.field? name (Report.entriesIn v) = none

/-- The jobs of a workflow, by name. -/
def jobsIn (workflow : Value) : Entries :=
  Report.entriesIn (workflow.under "jobs")

/-- The steps of a job. -/
def stepsIn (job : Value) : List Value :=
  (job.under "steps").items?.getD []

theorem entriesIn_of_entriesFor {entries : Entries} (h : v.entriesFor name = .ok entries) :
    Report.entriesIn v = entries := by
  cases v with
  | map kind found => exact pure_ok.mp h
  | _ => cases h

theorem under_of_field? {found : Option Value} (h : v.field? name = .ok found) :
    v.under name = found.getD .null := by
  obtain ⟨entries, hentries, h⟩ := bind_ok.mp h
  obtain rfl := pure_ok.mp h
  rw [under, entriesIn_of_entriesFor hentries]

theorem under_of_field (h : v.field name = .ok w) : v.under name = w := by
  obtain ⟨found, hfound, h⟩ := bind_ok.mp h
  obtain rfl := pure_ok.mp h
  exact under_of_field? hfound

/-- An item under a text is what stands under that name; only mappings have such items. -/
theorem under_of_itemNamed (h : v.itemNamed name = .ok w) : v.under name = w := by
  cases v with
  | map kind entries =>
    obtain ⟨-, -, h⟩ := bind_ok.mp h
    cases hfound : Entries.lookup? (.text name) entries with
    | none =>
      rw [hfound] at h
      cases h
    | some found =>
      rw [hfound] at h
      obtain rfl := pure_ok.mp h
      rw [under, Entries.field?, Report.entriesIn, hfound]
      rfl
  | _ => cases h

theorem getD_of_items {items : List Value} (h : v.items = .ok items) :
    v.items?.getD [] = items := by
  unfold Value.items at h
  cases hitems : v.items? with
  | none =>
    rw [hitems] at h
    cases h
  | some found =>
    rw [hitems] at h
    exact pure_ok.mp h

/-- What can be cut and encoded is a text without a tag. -/
theorem eq_text_of_encodedChars {chars : List Char} (h : v.encodedChars = .ok chars) :
    v = .text (String.ofList chars) := by
  cases v with
  | text s =>
    obtain rfl := pure_ok.mp h
    rw [String.ofList_toList]
  | _ => cases h

theorem eq_null_of_isNull (h : v.isNull = true) : v = .null := by
  cases v with
  | null => rfl
  | _ => cases h

end Value

/-! ## Scripts -/

namespace Script

/-- The flagged lines of the script of a step are those of its text.  An empty script is one line,
which is not flagged. -/
theorem flagged_ok {source workflowCondition jobCondition : Value} {script : String}
    {lines : List FlaggedLine} (hrun : source.under "run" = .text script)
    (h : flagged source workflowCondition jobCondition = .ok lines) :
    lines = flaggedIn ((source.under "if").isTruthy || workflowCondition.isTruthy ||
      jobCondition.isTruthy) script.toList := by
  obtain ⟨found, hfound, h⟩ := bind_ok.mp h
  obtain rfl : Value.text script = found := hrun.symm.trans (Value.under_of_itemNamed hfound)
  cases htruthy : (Value.text script).isTruthy with
  | true =>
    rw [if_pos htruthy] at h
    obtain ⟨text, htext, h⟩ := bind_ok.mp h
    obtain rfl := pure_ok.mp htext
    obtain ⟨condition, hcondition, h⟩ := bind_ok.mp h
    obtain rfl := pure_ok.mp h
    rw [Value.under_of_field hcondition]
  | false =>
    rw [htruthy] at h
    obtain rfl := pure_ok.mp h
    have hempty : script = "" := by
      simpa [Value.isTruthy] using htruthy
    rw [hempty]
    rfl

end Script

/-- The flagged lines that are noted for a step, if it has a script. -/
def StepSecurity.lines? : StepSecurity → Option (List Script.FlaggedLine)
  | .flaggedLines lines => some lines
  | .none | .upToDate _ => Option.none

/-- What a step says of the script of its source: that it has none, or the number of its lines and
the flagged ones. -/
inductive StepRecord.ScriptOf (conditional : Bool) (source : Value) (record : StepRecord) :
    Prop where
  | absent (hrun : source.under "run" = .null) (hscript : record.script = none)
    (hlines : record.security.lines? = none)
  | present {script : String} (hrun : source.under "run" = .text script)
    (hcount : record.script.map ScriptSummary.lineCount =
      some (Text.pieces '\n' script.toList).length)
    (hlines : record.security.lines? = some (Script.flaggedIn conditional script.toList))

/-- A step of a job and its source, which comes with its number.  It is conditional when it, the
workflow or the job has a condition. -/
structure StepRecord.Of (workflowCondition jobCondition : Bool) (numbered : Value × Nat)
    (record : StepRecord) : Prop where
  position : record.position = numbered.2
  script : record.ScriptOf ((numbered.1.under "if").isTruthy || workflowCondition || jobCondition)
    numbered.1

/-- The steps of a job are those of its source, numbered from one. -/
def JobRecord.Of (workflowCondition : Bool) (source : Value) (record : JobRecord) : Prop :=
  List.Forall₂ (StepRecord.Of workflowCondition (source.under "if").isTruthy)
    (source.stepsIn.zipIdx 1) record.steps

/-- The jobs of a workflow are those of its source. -/
def JobsOf (workflowCondition : Bool) (sources : Entries)
    (jobs : List (Value × JobRecord)) : Prop :=
  List.Forall₂ (fun source job => job.1 = source.1 ∧
    job.2.Of workflowCondition source.2) sources jobs

/-- A record without jobs has no field for them. -/
theorem WorkflowRecord.lacks_jobs {record : WorkflowRecord} (h : record.jobs = none) :
    record.toValue.Lacks "jobs" := by
  obtain ⟨loneName, heading, triggers, jobs⟩ := record
  obtain rfl : jobs = none := h
  cases loneName <;> cases heading <;> cases triggers <;> rfl

/-! ## Steps and jobs -/

namespace Extraction

variable {workflowCondition jobCondition source : Value} {s s' : Session}

/-- What is noted for the action that a step uses: a flag that was looked up, or nothing. -/
inductive ActionNoted (uses : Value) (s s' : Session) : StepSecurity → Prop where
  | upToDate {flag : Bool} (huses : uses.isTruthy = true)
    (hlookup : (Release.isUpToDate uses).perform s = (.ok flag, s')) :
    ActionNoted uses s s' (.upToDate flag)
  | none (huses : uses.isTruthy = false) (hsame : s = s') : ActionNoted uses s s' .none

/-- A step that was extracted has looked up its action, and changed the session by nothing else.
What was noted for the action is kept, unless there is a script; then its flagged lines take its
place. -/
theorem step_ok {position : Nat} {record : StepRecord}
    (h : (step position jobCondition workflowCondition source).perform s = (.ok record, s')) :
    record.position = position ∧ record.uses = source.under "uses" ∧
      ∃ security, ActionNoted (source.under "uses") s s' security ∧
        (source.under "run" = .null ∧ record.script = none ∧ record.security = security ∨
          ∃ script, source.under "run" = .text script ∧
            record.script.map ScriptSummary.lineCount =
              some (Text.pieces '\n' script.toList).length ∧
            record.security = .flaggedLines (Script.flaggedIn ((source.under "if").isTruthy ||
              workflowCondition.isTruthy || jobCondition.isTruthy) script.toList)) := by
  unfold step at h
  obtain ⟨name, s₁, hcheck, h⟩ := perform_bind_ok.mp h
  obtain ⟨-, rfl⟩ := perform_check_ok.mp hcheck
  obtain ⟨conditional, s₁, hcheck, h⟩ := perform_bind_ok.mp h
  obtain ⟨-, rfl⟩ := perform_check_ok.mp hcheck
  obtain ⟨uses, s₁, hcheck, h⟩ := perform_bind_ok.mp h
  obtain ⟨huses, rfl⟩ := perform_check_ok.mp hcheck
  obtain rfl := Value.under_of_field huses
  obtain ⟨script, s₁, hcheck, h⟩ := perform_bind_ok.mp h
  obtain ⟨hfield, rfl⟩ := perform_check_ok.mp hcheck
  have hscript : source.under "run" = script := Value.under_of_field hfield
  extract_lets summarize at h
  obtain ⟨security, s₂, hnoted, h⟩ : ∃ security s₂,
    ActionNoted (source.under "uses") s s₂ security ∧
      (summarize security).perform s₂ = (.ok record, s') := by
    split at h
    · rename_i htruthy
      obtain ⟨security, s₂, hlookup, h⟩ := perform_bind_ok.mp h
      rw [map_eq_pure_bind] at hlookup
      obtain ⟨flag, s₃, hflag, hpure⟩ := perform_bind_ok.mp hlookup
      obtain ⟨rfl, rfl⟩ := perform_pure_ok.mp hpure
      exact ⟨_, _, .upToDate htruthy hflag, h⟩
    · rename_i htruthy
      obtain ⟨security, s₂, hpure, h⟩ := perform_bind_ok.mp h
      obtain ⟨rfl, rfl⟩ := perform_pure_ok.mp hpure
      exact ⟨_, _, .none (Bool.eq_false_iff.mpr htruthy) rfl, h⟩
  -- the rest of the extraction leaves the session as it is
  simp only [summarize] at h
  cases hnull : script.isNull with
  | true =>
    rw [if_pos hnull] at h
    obtain ⟨rfl, rfl⟩ := perform_pure_ok.mp h
    exact ⟨rfl, rfl, security, hnoted,
      .inl ⟨hscript.trans (Value.eq_null_of_isNull hnull), rfl, rfl⟩⟩
  | false =>
    rw [if_neg (Bool.eq_false_iff.mp hnull)] at h
    obtain ⟨text, s₃, hcheck, h⟩ := perform_bind_ok.mp h
    obtain ⟨hsplit, rfl⟩ := perform_check_ok.mp hcheck
    obtain ⟨encoded, s₃, hcheck, hsummary⟩ := perform_bind_ok.mp h
    obtain ⟨hencoded, rfl⟩ := perform_check_ok.mp hcheck
    obtain rfl := Value.eq_text_of_encodedChars hencoded
    obtain rfl := pure_ok.mp hsplit
    obtain ⟨lines, s₃, hcheck', hrecord⟩ := perform_bind_ok.mp hsummary
    obtain ⟨hlines, rfl⟩ := perform_check_ok.mp hcheck'
    obtain rfl := Script.flagged_ok hscript hlines
    obtain ⟨rfl, rfl⟩ := perform_pure_ok.mp hrecord
    exact ⟨rfl, rfl, security, hnoted, .inr ⟨_, hscript, rfl, rfl⟩⟩

theorem of_step {position : Nat} {record : StepRecord}
    (h : (step position jobCondition workflowCondition source).perform s = (.ok record, s')) :
    record.Of workflowCondition.isTruthy jobCondition.isTruthy (source, position) := by
  obtain ⟨hposition, -, security, hnoted, hscript⟩ := step_ok h
  rcases hscript with ⟨hrun, hscript, hsecurity⟩ | ⟨script, hrun, hcount, hlines⟩
  · refine ⟨hposition, .absent hrun hscript ?_⟩
    rw [hsecurity]
    cases hnoted <;> rfl
  · refine ⟨hposition, .present hrun hcount ?_⟩
    rw [hlines]
    rfl

theorem of_stepsFrom {position : Nat} {sources : List Value} {records : List StepRecord}
    (h : (stepsFrom jobCondition workflowCondition position sources).perform s =
      (.ok records, s')) :
    List.Forall₂ (StepRecord.Of workflowCondition.isTruthy jobCondition.isTruthy)
      (sources.zipIdx position) records := by
  induction sources generalizing position records s s' with
  | nil =>
    obtain ⟨rfl, -⟩ := perform_pure_ok.mp h
    exact .nil
  | cons source rest ih =>
    obtain ⟨record, s₁, hfirst, h⟩ := perform_bind_ok.mp h
    obtain ⟨others, s₂, hrest, h⟩ := perform_bind_ok.mp h
    obtain ⟨rfl, -⟩ := perform_pure_ok.mp h
    rw [List.zipIdx_cons]
    exact .cons (of_step hfirst) (ih hrest)

/-- A job that was extracted has the permissions of its source, and has extracted its steps. -/
theorem job_ok {record : JobRecord}
    (h : (job workflowCondition source).perform s = (.ok record, s')) :
    record.permissions = source.under "permissions" ∧
      (stepsFrom (.bool (source.under "if").isTruthy) workflowCondition 1
        source.stepsIn).perform s =
        (.ok record.steps, s') := by
  unfold job at h
  obtain ⟨name, s₁, hcheck, h⟩ := perform_bind_ok.mp h
  obtain ⟨-, rfl⟩ := perform_check_ok.mp hcheck
  obtain ⟨uses, s₁, hcheck, h⟩ := perform_bind_ok.mp h
  obtain ⟨-, rfl⟩ := perform_check_ok.mp hcheck
  obtain ⟨conditional, s₁, hcheck, h⟩ := perform_bind_ok.mp h
  obtain ⟨hconditional, rfl⟩ := perform_check_ok.mp hcheck
  obtain ⟨permissions, s₁, hcheck, h⟩ := perform_bind_ok.mp h
  obtain ⟨hpermissions, rfl⟩ := perform_check_ok.mp hcheck
  obtain ⟨sources, s₁, hcheck, h⟩ := perform_bind_ok.mp h
  obtain ⟨hsources, rfl⟩ := perform_check_ok.mp hcheck
  obtain ⟨records, s₁, hsteps, h⟩ := perform_bind_ok.mp h
  obtain ⟨rfl, rfl⟩ := perform_pure_ok.mp h
  obtain ⟨items, s₂, hcheck, hsteps⟩ := perform_bind_ok.mp hsteps
  obtain ⟨hitems, rfl⟩ := perform_check_ok.mp hcheck
  -- a job without steps has no items either way
  have hstepsIn : source.stepsIn = items := by
    rw [Value.stepsIn, Value.under_of_field? hsources, ← Value.getD_of_items hitems]
    cases sources <;> rfl
  rw [hstepsIn, Value.under_of_field hconditional, Value.under_of_field hpermissions]
  exact ⟨rfl, hsteps⟩

theorem of_job {record : JobRecord}
    (h : (job workflowCondition source).perform s = (.ok record, s')) :
    record.Of workflowCondition.isTruthy source :=
  (of_stepsFrom (job_ok h).2 :)

theorem of_jobEntries {entries : Entries} {found : List (Value × JobRecord)}
    (h : (jobEntries workflowCondition entries).perform s = (.ok found, s')) :
    JobsOf workflowCondition.isTruthy entries found := by
  induction entries generalizing found s s' with
  | nil =>
    obtain ⟨rfl, -⟩ := perform_pure_ok.mp h
    exact .nil
  | cons entry rest ih =>
    obtain ⟨id, source⟩ := entry
    obtain ⟨record, s₁, hfirst, h⟩ := perform_bind_ok.mp h
    obtain ⟨others, s₂, hrest, h⟩ := perform_bind_ok.mp h
    obtain ⟨rfl, -⟩ := perform_pure_ok.mp h
    exact .cons ⟨rfl, of_job hfirst⟩ (ih hrest)

/-- Jobs that were extracted are those of their source, each with its steps. -/
theorem jobsOf_of_perform {sources : Value} {found : List (Value × JobRecord)}
    (h : (jobs sources workflowCondition).perform s = (.ok found, s')) :
    JobsOf workflowCondition.isTruthy (Report.entriesIn sources) found := by
  obtain ⟨entries, s₁, hcheck, h⟩ := perform_bind_ok.mp h
  rw [Value.entriesIn_of_entriesFor (perform_check_ok.mp hcheck).1]
  exact of_jobEntries h

/-! ## Workflows -/

/-- The part of a document that lists its jobs; a document without it has none. -/
def jobSources (source : Value) : Value :=
  ((source.field? "jobs").toOption.join).getD (.map .plain [])

theorem entriesIn_jobSources (source : Value) :
    Report.entriesIn (jobSources source) = source.jobsIn := by
  cases source with
  | map kind entries =>
    show Report.entriesIn ((Entries.field? "jobs" entries).getD (.map .plain [])) =
      Report.entriesIn ((Entries.field? "jobs" entries).getD .null)
    cases Entries.field? "jobs" entries <;> rfl
  | _ => rfl

/-- A record with all its parts, and what each of them comes from. -/
structure Extracted (source : Value) (record : WorkflowRecord) (found : List (Value × JobRecord))
    (s s' : Session) : Prop where
  parts : ∃ heading triggers on, record = ⟨none, some heading, some triggers, some found⟩ ∧
    headingOf source = .ok heading ∧ source.field? "on" = .ok (some on) ∧
    triggersOf on = (some triggers, true)
  jobs : (jobs (jobSources source) (.bool (source.under "if").isTruthy)).perform s = (.ok found, s')

/-- A task whose failure is caught has succeeded when it gives a result. -/
theorem perform_of_caught {α : Type} {task : Audit α} {a : α}
    (h : (tryCatch (some <$> task) fun _ => pure none).perform s = (.ok (some a), s')) :
    task.perform s = (.ok a, s') := by
  rw [perform_tryCatch, map_eq_pure_bind] at h
  rcases hrun : (task >>= fun a => pure (some a)).perform s with ⟨outcome, s₁⟩
  rw [hrun] at h
  cases outcome with
  | error failure => cases h
  | ok result =>
    cases h
    obtain ⟨a', s₂, htask, hpure⟩ := perform_bind_ok.mp hrun
    obtain ⟨he, rfl⟩ := perform_pure_ok.mp hpure
    cases he
    exact htask

theorem under_if_of_headingOf {source : Value} {heading : Heading}
    (h : headingOf source = .ok heading) : source.under "if" = heading.conditional := by
  obtain ⟨name, -, h⟩ := bind_ok.mp h
  obtain ⟨permissions, -, h⟩ := bind_ok.mp h
  obtain ⟨written, -, h⟩ := bind_ok.mp h
  obtain ⟨conditional, hconditional, h⟩ := bind_ok.mp h
  obtain rfl := pure_ok.mp h
  exact Value.under_of_field hconditional

theorem extracted_of_ofDocument {source : Value} {record : WorkflowRecord}
    {found : List (Value × JobRecord)} (h : (ofDocument source).perform s = (.ok record, s'))
    (hjobs : record.jobs = some found) : Extracted source record found s s' := by
  unfold ofDocument at h
  split at h
  · obtain ⟨rfl, -⟩ := perform_pure_ok.mp h
    cases hjobs
  · split at h
    · rename_i heading on hheading hon
      split at h
      · obtain ⟨rfl, -⟩ := perform_pure_ok.mp h
        cases hjobs
      · rename_i triggers htriggers
        obtain ⟨result, s₁, hcaught, h⟩ := perform_bind_ok.mp h
        obtain ⟨rfl, rfl⟩ := perform_pure_ok.mp h
        obtain rfl : result = some found := hjobs
        obtain ⟨triggers, rfl⟩ := exists_triggers htriggers
        refine ⟨⟨heading, triggers, on, rfl, hheading, hon, htriggers⟩, ?_⟩
        rw [under_if_of_headingOf hheading]
        exact perform_of_caught hcaught
    · obtain ⟨rfl, -⟩ := perform_pure_ok.mp h
      cases hjobs
    · obtain ⟨rfl, -⟩ := perform_pure_ok.mp h
      cases hjobs

/-- A record with jobs comes from a document that could be loaded. -/
theorem exists_source {text : String} {record : WorkflowRecord} {found : List (Value × JobRecord)}
    (h : (workflow (.text text)).perform s = (.ok record, s')) (hjobs : record.jobs = some found) :
    ∃ source, Yaml.load text.toList = .ok source ∧ Extracted source record found s s' := by
  change (ofText text.toList).perform s = (.ok record, s') at h
  unfold ofText at h
  split at h
  · exact ⟨_, ‹_›, extracted_of_ofDocument h hjobs⟩
  · obtain ⟨rfl, -⟩ := perform_pure_ok.mp h
    cases hjobs
  · obtain ⟨rfl, -⟩ := perform_pure_ok.mp h
    cases hjobs
  · cases h

/-- A workflow with jobs that an operation gives is the value of a record that comes from a
document. -/
theorem exists_extracted {text : String} {s s' : Session} {out : Value}
    (h : (Operation.extractWorkflow (.text text)).run.perform s = (.ok out, s'))
    (hjobs : ¬ out.Lacks "jobs") :
    ∃ source record found, out = record.toValue ∧ Yaml.load text.toList = .ok source ∧
      Extracted source record found s s' := by
  obtain ⟨record, s₁, hrun, h⟩ := perform_bind_ok.mp h
  obtain ⟨rfl, rfl⟩ := perform_pure_ok.mp h
  cases hfound : record.jobs with
  | none => exact absurd (WorkflowRecord.lacks_jobs hfound) hjobs
  | some found =>
    obtain ⟨source, hsource, hextracted⟩ := exists_source hrun hfound
    exact ⟨source, record, found, rfl, hsource, hextracted⟩

end Extraction

/-! ### A workflow with a script and an action -/

/-- A workflow with a trigger that has a filter, and a job under a condition with two steps: a
script that exposes the triggering event in its second line, and a use of an action. -/
def buildText : String :=
  "\x7bon: \x7bpush: \x7btags: [v]\x7d\x7d, jobs: \x7bjob: \x7bif: yes, steps: [" ++
    "\x7brun: \"cd\\necho $\x7b\x7b github.ref\"\x7d, \x7buses: own/act@v2\x7d]\x7d\x7d\x7d"

/-- A session in which the service knows the newest tag of the action. -/
def buildSession : Session :=
  { answers := [("/repos/own/act/releases/latest", [⟨200, "\x7b\"tag_name\": \"v2\"\x7d"⟩])] }

/-- The workflow is extracted there, with jobs and four more parts. -/
theorem exists_build :
    ∃ out s',
      (Operation.extractWorkflow (.text buildText)).run.perform buildSession = (.ok out, s') ∧
      ¬ out.Lacks "jobs" ∧ (Report.entriesIn out).length = 5 := by
  have hout :
      ((Operation.extractWorkflow (.text buildText)).run.perform buildSession).1.toOption.any
      (fun out => (Entries.field? "jobs" (Report.entriesIn out)).isSome &&
        (Report.entriesIn out).length == 5) = true := by decide +kernel
  obtain ⟨out, s', hrun, hout⟩ := exists_of_any hout
  obtain ⟨hjobs, hlength⟩ := Bool.and_eq_true_iff.mp hout
  exact ⟨out, s', hrun, Option.isSome_iff_ne_none.mp hjobs, beq_iff_eq.mp hlength⟩

end WorkflowAudit
