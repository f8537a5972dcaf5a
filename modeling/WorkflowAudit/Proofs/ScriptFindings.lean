import WorkflowAudit.Proofs.ExposurePattern
import WorkflowAudit.Proofs.Shapes

/-! # What is found in scripts

A step with a script is extracted with the number of lines of the script and a list of those that
expose something of the triggering event.  Both can be told from the text of the script alone
(`Script.exposedLines`), up to one mark that the conditions of the step, its job and its workflow
decide.

`script_findings_exact` says so of every step of every workflow that is extracted with jobs, and
follows the lists to the reader that collects them.
-/
namespace WorkflowAudit

open Audit

/-! ## Lines -/

namespace Text

theorem pieces_eq_splitOn (separator : Char) (text : List Char) :
    pieces separator text = text.splitOn separator := by
  induction text with
  | nil => rfl
  | cons c text ih =>
    rw [List.splitOn_eq_splitOnP] at ih
    rw [List.splitOn_eq_splitOnP, List.splitOnP_cons_eq_if_modifyHead, ← ih, pieces]
    by_cases h : c = separator
    · rw [if_pos h, if_pos (beq_iff_eq.mpr h)]
    · rw [if_neg h, if_neg (mt beq_iff_eq.mp h)]
      cases hpieces : pieces separator text with
      | nil => exact absurd hpieces (pieces_ne_nil separator text)
      | cons piece rest => rfl

/-- A text has one piece more than separators. -/
theorem length_pieces (separator : Char) (text : List Char) :
    (pieces separator text).length = 1 + text.count separator := by
  induction text with
  | nil => rfl
  | cons c text ih =>
    rw [pieces]
    by_cases h : c = separator
    · rw [if_pos h, List.length_cons, ih, h, List.count_cons_self]
      omega
    · rw [if_neg h, List.count_cons_of_ne h, ← ih]
      cases hpieces : pieces separator text with
      | nil => exact absurd hpieces (pieces_ne_nil separator text)
      | cons piece rest => rfl

end Text

namespace Script

/-- The entry of a line with its number. -/
def lineEntry (conditional : Bool) (numbered : List Char × Nat) : Value :=
  .record [("position", .int numbered.2), ("line", .text (String.ofList numbered.1)),
    ("conditional", .bool conditional)]

/-- The lines of a script that expose something, each with its number from zero. -/
def exposedLines (conditional : Bool) (script : List Char) : List Value :=
  ((script.splitOn '\n').zipIdx.filter fun numbered => Exposes numbered.1).map
    (lineEntry conditional)

theorem map_toValue_flaggedAmong (conditional : Bool) (position : Nat) (lines : List (List Char)) :
    (flaggedAmong conditional position lines).map FlaggedLine.toValue =
      ((lines.zipIdx position).filter fun numbered => Exposes numbered.1).map
        (lineEntry conditional) := by
  induction lines generalizing position with
  | nil => rfl
  | cons line rest ih =>
    rw [flaggedAmong, List.zipIdx_cons, List.filter_cons]
    by_cases h : isExposed line = true
    · rw [if_pos h, if_pos (decide_eq_true (isExposed_iff.mp h)), List.map_cons, List.map_cons, ih]
      rfl
    · rw [if_neg h, if_neg (by simpa using mt isExposed_iff.mpr h), ih]

theorem map_toValue_flaggedIn (conditional : Bool) (script : List Char) :
    (flaggedIn conditional script).map FlaggedLine.toValue = exposedLines conditional script := by
  rw [flaggedIn, map_toValue_flaggedAmong, Text.pieces_eq_splitOn]
  rfl

/-! ## Steps -/

/-- Whether a step is under a condition: its own, that of its workflow or that of its job. -/
def isConditional (workflow job step : Value) : Bool :=
  (step.under "if").isTruthy || (workflow.under "if").isTruthy || (job.under "if").isTruthy

/-- What an extracted step says of the script of its source.  Without a script it has no lines and
no findings; otherwise it has one line more than newlines, and a finding for each exposed line. -/
inductive Found (conditional : Bool) (source item : Value) : Prop where
  | absent (hrun : source.under "run" = .null) (hcount : item.under "run" = .int 0)
    (hdigest : item.Lacks "run_hash") (hlines : (item.under "security").Lacks "runs")
  | present {script : String} (hrun : source.under "run" = .text script)
    (hcount : item.under "run" = .int (1 + script.toList.count '\n' : Nat))
    (hlines : (item.under "security").under "runs" =
      .plainList (exposedLines conditional script.toList))

theorem found_of_scriptOf {conditional : Bool} {source : Value} {record : StepRecord}
    (h : record.ScriptOf conditional source) : Found conditional source record.toValue := by
  obtain ⟨name, condition, position, uses, security, script⟩ := record
  cases h with
  | absent hrun hscript hlines =>
    obtain rfl : script = none := hscript
    refine .absent hrun rfl rfl ?_
    cases security with
    | none | upToDate flag => rfl
    | flaggedLines lines => cases hlines
  | @present text hrun hcount hlines =>
    obtain ⟨summary, rfl, hlength⟩ := Option.map_eq_some_iff.mp hcount
    cases security with
    | none | upToDate flag => cases hlines
    | flaggedLines lines =>
      obtain rfl := Option.some.inj hlines
      refine .present hrun ?_ ?_
      · rw [← Text.length_pieces, ← hlength]
        rfl
      · rw [← map_toValue_flaggedIn]
        rfl

/-- The entries of the exposed lines of a step, from its source. -/
def exposedIn (workflow job step : Value) : List Value :=
  match step.under "run" with
  | .text script => exposedLines (isConditional workflow job step) script.toList
  | _ => []

theorem map_toValue_flagged {workflow job step : Value} {record : StepRecord}
    (h : record.ScriptOf (isConditional workflow job step) step) :
    record.flagged.map FlaggedLine.toValue = exposedIn workflow job step := by
  unfold exposedIn StepRecord.flagged
  cases h with
  | absent hrun hscript hlines => rw [hrun, hlines]; rfl
  | present hrun hcount hlines => rw [hrun, hlines]; exact map_toValue_flaggedIn _ _

/-- The steps of a job, each with its source. -/
theorem scriptOf_of_jobOf {workflow job : Value} {record : JobRecord}
    (h : record.Of (workflow.under "if").isTruthy job) :
    List.Forall₂ (fun step found => found.ScriptOf (isConditional workflow job step) step)
      job.stepsIn record.steps := by
  rw [← List.zipIdx_map_fst 1 job.stepsIn, List.forall₂_map_left_iff]
  exact h.imp fun numbered found hfound => hfound.script

end Script

/-! ## Workflows -/

namespace Findings

open Script

variable {source : Value} {found : List (Value × JobRecord)}

/-- A list of what was flagged in the steps leaves out those in which nothing was. -/
theorem flatMap_listed (steps : List (Value × StepRecord)) :
    (steps.flatMap fun step => listed step.2.flagged) =
      ((steps.map fun step => step.2.flagged.map FlaggedLine.toValue).filter
        fun lines => !lines.isEmpty).map .plainList := by
  induction steps with
  | nil => rfl
  | cons step rest ih =>
    rw [List.flatMap_cons, ih, List.map_cons]
    cases hflagged : step.2.flagged with
    | nil => rfl
    | cons line lines => rfl

theorem flagged_stepsOf (h : JobsOf (source.under "if").isTruthy source.jobsIn found) :
    ((stepsOf found).map fun step => step.2.flagged.map FlaggedLine.toValue) =
      source.jobsIn.flatMap fun job => job.2.stepsIn.map (exposedIn source job.2) := by
  unfold stepsOf
  rw [List.map_flatMap]
  generalize source.jobsIn = sources at h ⊢
  induction h with
  | nil => rfl
  | @cons job record _ _ hjob _ ih =>
    rw [List.flatMap_cons, List.flatMap_cons, ih, List.map_map]
    congr 1
    rw [← List.forall₂_eq_eq_eq, List.forall₂_map_left_iff, List.forall₂_map_right_iff]
    exact (scriptOf_of_jobOf hjob.2).flip.imp fun record step hstep => map_toValue_flagged hstep

end Findings

open Script in
/-- **What is found in scripts is exact.**  Let a workflow with jobs be extracted from a text, in
any session.  Job by job and step by step, it says of each script what `Script.Found` asks for: the
number of its lines, and for each line that exposes something of the triggering event, in order, its
number, the line as it is, and whether the step is under a condition.  The reader of flagged lines
gets those lists, in the order of the document, without the empty ones.  And a line exposes
something exactly when it matches the pattern. -/
theorem script_findings_exact {text : String} {s s' : Session} {out : Value}
    (h : (Operation.extractWorkflow (.text text)).run.perform s = (.ok out, s'))
    (hjobs : ¬ out.Lacks "jobs") :
    ∃ source, Yaml.load text.toList = .ok source ∧
      List.Forall₂ (fun job found => found.1 = job.1 ∧
          List.Forall₂ (fun step item => Found (isConditional source job.2 step) step item)
            job.2.stepsIn found.2.stepsIn)
        source.jobsIn out.jobsIn ∧
      Findings.flaggedRuns out =
        .ok (((source.jobsIn.flatMap fun job => job.2.stepsIn.map (exposedIn source job.2)).filter
          fun lines => !lines.isEmpty).map .plainList) ∧
      ∀ line, '\n' ∉ line →
        Pattern.textMatches exposurePattern line = .ok (decide (Exposes line)) := by
  obtain ⟨source, record, found, rfl, hsource, hextracted⟩ := Extraction.exists_extracted h hjobs
  obtain ⟨heading, triggers, on, rfl, -⟩ := hextracted.parts
  have hfound := Extraction.jobsOf_of_perform hextracted.jobs
  rw [Extraction.entriesIn_jobSources] at hfound
  refine ⟨source, hsource, ?_, ?_, fun line hline => textMatches_exposurePattern hline⟩
  · rw [jobsIn_wholeValue, List.forall₂_map_right_iff]
    refine hfound.imp fun job record hjob => ⟨hjob.1, ?_⟩
    rw [stepsIn_toValue, List.forall₂_map_right_iff]
    exact (scriptOf_of_jobOf hjob.2).imp fun step found hstep => found_of_scriptOf hstep
  · rw [Findings.flaggedRuns_wholeValue, Findings.flatMap_listed, Findings.flagged_stepsOf hfound]

open Script in
/-- The law at a script whose second line exposes something, under the condition of its job. -/
theorem build_findings :
    ∃ out s' runs,
      (Operation.extractWorkflow (.text buildText)).run.perform buildSession = (.ok out, s') ∧
      ¬ out.Lacks "jobs" ∧ Findings.flaggedRuns out = .ok runs ∧
      Value.equalItems runs
        [.plainList [lineEntry true ("echo $\x7b\x7b github.ref".toList, 1)]] = true := by
  obtain ⟨out, s', hrun, hjobs, -⟩ := exists_build
  obtain ⟨source, hsource, -, hruns, -⟩ := script_findings_exact hrun hjobs
  have hlines : (Yaml.load buildText.toList).toOption.any (fun source => Value.equalItems
      (((source.jobsIn.flatMap fun job => job.2.stepsIn.map (exposedIn source job.2)).filter
        fun lines => !lines.isEmpty).map .plainList)
      [.plainList [lineEntry true ("echo $\x7b\x7b github.ref".toList, 1)]]) = true := by
    decide +kernel
  rw [hsource] at hlines
  exact ⟨out, s', _, hrun, hjobs, hruns, hlines⟩

end WorkflowAudit
