import WorkflowAudit.Proofs.ActionFindings
import WorkflowAudit.Proofs.ScriptFindings

/-! # Reviews of steps

Two reviews go through steps and say what they find.  Neither of them does what it is there for.

The first looks for secrets in the script of a step, part by part, and says of each part that refers
to one where it is (`Findings.perform_reportSecrets`).  The parts of a list of lines are its lines,
and of these it finds all that refer to a secret.  But the parts of a text are its characters, none
of which is long enough, so it says nothing of any script that is given as a text
(`secrets_found_iff_unmentioned`).

The second goes through an extracted workflow and asks for the analysis of each step with an
argument too many.  So it is refused at the first step there is, and comes to an end exactly for
workflows that have none (`reviewed_iff_without_steps`).
-/
namespace WorkflowAudit

open Audit

/-! ## Lines that refer to a secret -/

namespace Text

theorem occursIn_iff {needle text : List Char} :
    occursIn needle text = true ↔ needle <:+: text := by
  induction text with
  | nil => rw [occursIn, List.isEmpty_iff, List.infix_nil]
  | cons c text ih =>
    rw [occursIn, Bool.or_eq_true, ih, startsWith_iff, List.infix_cons_iff]
    exact or_congr_left (exists_congr fun rest => eq_comm)

theorem not_mem_of_mem_pieces {separator : Char} {text piece : List Char}
    (h : piece ∈ pieces separator text) : separator ∉ piece := by
  induction text generalizing piece with
  | nil =>
    obtain rfl := List.mem_singleton.mp h
    exact List.not_mem_nil
  | cons c text ih =>
    rw [pieces] at h
    by_cases hc : c = separator
    · rw [if_pos hc] at h
      rcases List.mem_cons.mp h with rfl | h
      · exact List.not_mem_nil
      · exact ih h
    · rw [if_neg hc] at h
      -- the character goes to the first of the pieces behind it
      cases hpieces : pieces separator text with
      | nil => exact absurd hpieces (pieces_ne_nil separator text)
      | cons first rest =>
        rw [hpieces] at h ih
        rcases List.mem_cons.mp h with rfl | h
        · exact List.not_mem_cons_of_ne_of_not_mem (Ne.symm hc) (ih List.mem_cons_self)
        · exact ih (List.mem_cons_of_mem first h)

end Text

namespace Script

/-- Some line of a script refers to a secret. -/
def MentionsSecret (script : List Char) : Prop :=
  ∃ line ∈ script.splitOn '\n', secretStart <:+: line

/-- A line refers to a secret wherever the reference stands in it. -/
theorem mentionsSecret_iff {line : List Char} (h : '\n' ∉ line) :
    mentionsSecret line = true ↔ secretStart <:+: line := by
  have hline : line.takeWhile (· ≠ '\n') = line := by
    refine List.takeWhile_eq_self_iff.mpr fun c hc => decide_eq_true fun he => h (he ▸ hc)
  rw [mentionsSecret, hline, Text.occursIn_iff]

/-- A single character does not. -/
theorem mentionsSecret_char (c : Char) : mentionsSecret [c] = false := by
  refine Bool.eq_false_iff.mpr fun h => ?_
  have hlength := (Text.occursIn_iff.mp h).length_le
  have hshort := (List.takeWhile_prefix (l := [c]) (· ≠ '\n')).length_le
  have hlong : secretStart.length = 8 := by decide
  rw [List.length_singleton] at hshort
  omega

end Script

/-! ## Secrets in scripts -/

/-- A loop that prints something at each item prints it all, in order. -/
theorem Audit.perform_forIn_printed {α : Type} {visit : α → PUnit → Audit (ForInStep PUnit)}
    (said : α → List Char) {items : List α}
    (hvisit : ∀ a ∈ items, ∀ s, (visit a ⟨⟩).perform s = (.ok (.yield ⟨⟩), s.printed (said a)))
    (s : Session) :
    (ForIn.forIn items ⟨⟩ visit).perform s = (.ok ⟨⟩, s.printed (items.flatMap said)) := by
  induction items generalizing s with
  | nil => rw [List.forIn_nil, perform_pure, List.flatMap_nil, Session.printed_nil]
  | cons a rest ih =>
    obtain ⟨hfirst, hrest⟩ := List.forall_mem_cons.mp hvisit
    rw [List.forIn_cons, perform_bind, hfirst, List.flatMap_cons, ← Session.printed_printed]
    exact ih hrest _

/-- What does not count as true has no items. -/
theorem Value.eq_nil_of_items {v : Value} {items : List Value} (h : v.items = .ok items)
    (hfalse : v.isTruthy = false) : items = [] := by
  have hitems := Value.getD_of_items h
  cases v with
  | map kind entries | list kind entries | set entries | bytes entries =>
    have hempty : entries = [] := by simpa [Value.isTruthy] using hfalse
    rw [← hitems, hempty]
    rfl
  | text s =>
    have hempty : s = "" := by simpa [Value.isTruthy] using hfalse
    rw [← hitems, hempty]
    rfl
  | _ => exact hitems.symm

namespace Findings

/-- What is said of a part of the script of a step that refers to a secret. -/
def secretNotice (job name : Value) : List Char :=
  "Secret appears at job ".toList ++ job.displayed ++ " @ step ".toList ++ name.displayed ++ ['\n']

/-- The notice as often as it is given. -/
def secretNotices (job name : Value) (count : Nat) : List Char :=
  (List.replicate count (secretNotice job name)).flatten

variable {job step name : Value}

/-- What is said of a part of a script, which is nothing where it refers to no secret. -/
def noticeOf (job name : Value) (part : List Char) : List Char :=
  if Script.mentionsSecret part then secretNotice job name else []

theorem flatMap_noticeOf (parts : List (List Char)) :
    parts.flatMap (noticeOf job name) =
      secretNotices job name (parts.countP Script.mentionsSecret) := by
  induction parts with
  | nil => rfl
  | cons part rest ih =>
    rw [List.flatMap_cons, ih, noticeOf, List.countP_cons]
    by_cases h : Script.mentionsSecret part = true
    · rw [if_pos h, if_pos h]
      rfl
    · rw [if_neg h, if_neg h]
      rfl

/-- The notice can be given: neither the job nor the name has too long an integer in it. -/
def IsNotable (job name : Value) : Prop :=
  job.isShowable = true ∧ name.isShowable = true

/-- The notice is given for each part of a script that refers to a secret, and nothing else is
done. -/
theorem perform_reportSecrets {script : Value} {parts : List (List Char)}
    (hname : step.itemNamed "name" = .ok name) (hrun : step.itemNamed "run" = .ok script)
    (hparts : script.items = .ok (parts.map Value.ofChars))
    (hnotable : ∀ part ∈ parts, Script.mentionsSecret part = true → IsNotable job name)
    (s : Session) :
    (reportSecrets job step).perform s =
      (.ok (), s.printed (secretNotices job name (parts.countP Script.mentionsSecret))) := by
  unfold reportSecrets
  rw [hrun, perform_check_bind]
  dsimp only
  by_cases htruthy : script.isTruthy = true
  · rw [if_pos htruthy, hparts, perform_check_bind]
    dsimp only
    rw [List.forIn_map, perform_bind, perform_forIn_printed (noticeOf job name), flatMap_noticeOf]
    · rfl
    · intro part hpart s
      dsimp only [Value.ofChars]
      rw [String.toList_ofList, noticeOf]
      by_cases hmentions : Script.mentionsSecret part = true
      · obtain ⟨hjob, hshown⟩ := hnotable part hpart hmentions
        have htext : (step.itemNamed "name" >>= Value.shown) = .ok name.displayed :=
          bind_ok.mpr ⟨name, hname, Value.shown_of_isShowable hshown⟩
        rw [if_pos hmentions, if_pos hmentions, Value.shown_of_isShowable hjob, perform_check_bind]
        dsimp only
        rw [htext, perform_check_bind]
        rfl
      · rw [if_neg hmentions, if_neg hmentions, perform_pure, Session.printed_nil]
  · have hnil := Value.eq_nil_of_items hparts (Bool.eq_false_iff.mpr htruthy)
    obtain rfl := List.map_eq_nil_iff.mp hnil
    rw [if_neg htruthy, perform_pure]
    exact congrArg _ (Session.printed_nil s).symm

/-- Where the notice cannot be given, the first part that refers to a secret ends the review. -/
theorem reportSecrets_stops {script : Value} {parts : List (List Char)}
    (hname : step.itemNamed "name" = .ok name) (hrun : step.itemNamed "run" = .ok script)
    (hparts : script.items = .ok (parts.map Value.ofChars)) (hnot : ¬ IsNotable job name)
    (hmentions : ∃ part ∈ parts, Script.mentionsSecret part = true) (s : Session) :
    (reportSecrets job step).Stops s .longInteger := by
  have htruthy : script.isTruthy = true := by
    obtain ⟨part, hpart, -⟩ := hmentions
    by_contra hfalse
    have hnil := Value.eq_nil_of_items hparts (Bool.eq_false_iff.mpr hfalse)
    rw [List.map_eq_nil_iff.mp hnil] at hpart
    cases hpart
  unfold reportSecrets
  rw [hrun]
  refine .bind_next (.check rfl) fun said => ?_
  rw [if_pos htruthy, hparts]
  refine .bind_next (.check rfl) fun said => Stops.bind ?_
  rw [List.forIn_map]
  refine .forIn (fun part _ (hpart : Script.mentionsSecret part = false) s => ?_)
    (fun part _ hpart s => ?_) ?_ _
  · dsimp only [Value.ofChars]
    rw [String.toList_ofList, if_neg (Bool.eq_false_iff.mp hpart)]
    exact .pure _
  · dsimp only [Value.ofChars]
    rw [String.toList_ofList, if_pos (Bool.eq_true_of_not_eq_false hpart)]
    cases hjob : job.isShowable with
    | false => exact (Stops.check (Value.shown_of_not_isShowable hjob)).bind
    | true =>
      refine .bind_next (.check (Value.shown_of_isShowable hjob)) fun said => Stops.bind (.check ?_)
      rw [hname]
      exact Value.shown_of_not_isShowable (Bool.eq_false_iff.mpr fun hshown => hnot ⟨hjob, hshown⟩)
  · intro hall
    obtain ⟨part, hpart, hsecret⟩ := hmentions
    cases hsecret.symm.trans (hall part hpart)

/-- A step is reviewed as it should be for a script: nothing is done but to give the notice, and the
notice is given at least once exactly when some line of the script refers to a secret. -/
def FindsSecrets (job step name : Value) (script : List Char) (s : Session) : Prop :=
  ∃ count, (reportSecrets job step).perform s = (.ok (), s.printed (secretNotices job name count)) ∧
    (0 < count ↔ Script.MentionsSecret script)

/-- Of a script that is a text nothing is said, since its parts are its characters. -/
theorem perform_reportSecrets_text {script : String} (hname : step.itemNamed "name" = .ok name)
    (hrun : step.itemNamed "run" = .ok (.text script)) (s : Session) :
    (reportSecrets job step).perform s = (.ok (), s) := by
  have hparts : (Value.text script).items =
      .ok ((script.toList.map fun c => [c]).map Value.ofChars) := by
    rw [List.map_map]
    rfl
  have hcount : (script.toList.map fun c => [c]).countP Script.mentionsSecret = 0 := by
    refine List.countP_eq_zero.mpr fun part hpart => ?_
    obtain ⟨c, -, rfl⟩ := List.mem_map.mp hpart
    rw [Script.mentionsSecret_char]
    exact Bool.false_ne_true
  rw [perform_reportSecrets hname hrun hparts ?_, hcount]
  · exact congrArg _ (Session.printed_nil s)
  · intro part hpart hmentions
    exact absurd hmentions (List.countP_eq_zero.mp hcount part hpart)

/-- A script refers to a secret if one of its lines, looked at by itself, does. -/
theorem exists_line_iff {script : List Char} :
    (∃ line ∈ script.splitOn '\n', Script.mentionsSecret line = true) ↔
      Script.MentionsSecret script := by
  refine exists_congr fun line => and_congr_right fun hline => Script.mentionsSecret_iff ?_
  rw [← Text.pieces_eq_splitOn] at hline
  exact Text.not_mem_of_mem_pieces hline

/-- The lines of a script, given as a list, are all looked at. -/
theorem findsSecrets_lines {script : List Char} (hname : step.itemNamed "name" = .ok name)
    (hrun : step.itemNamed "run" = .ok (.plainList ((script.splitOn '\n').map Value.ofChars)))
    (hnotable : IsNotable job name) (s : Session) : FindsSecrets job step name script s := by
  refine ⟨_, perform_reportSecrets hname hrun rfl (fun _ _ _ => hnotable) s, ?_⟩
  rw [List.countP_pos_iff, exists_line_iff]

theorem eq_zero_of_printed {count : Nat} {s : Session}
    (h : s.printed (secretNotices job name count) = s) : count = 0 := by
  have hprinted : s.log.printed ++ secretNotices job name count = s.log.printed :=
    congrArg (fun s => s.log.printed) h
  have hnone : secretNotices job name count = [] := by simpa using hprinted
  cases count with
  | zero => rfl
  | succ count =>
    -- a notice ends with a line end
    have hnotice : secretNotice job name = [] := (List.append_eq_nil_iff.mp hnone).1
    exact absurd (List.append_eq_nil_iff.mp hnotice).2 (List.cons_ne_nil _ _)

/-- **Secrets in a script are found exactly when there are none.**  Let a step with a name have a
text as its script.  Its review ends, and says nothing whatever the script is; so it is as it should
be exactly when no line of the script refers to a secret.  The same script is reviewed as it should
be when the step has it as the list of its lines, if the job and the name can be turned into text;
if they cannot, the review fails at a line that refers to a secret. -/
theorem secrets_found_iff_unmentioned (job step : Value) {name : Value} {script : String}
    (hname : step.itemNamed "name" = .ok name) (hrun : step.itemNamed "run" = .ok (.text script))
    (s : Session) :
    (reportSecrets job step).perform s = (.ok (), s) ∧
    (FindsSecrets job step name script.toList s ↔ ¬ Script.MentionsSecret script.toList) ∧
    ∀ listed : Value, listed.itemNamed "name" = .ok name →
      listed.itemNamed "run" = .ok (.plainList ((script.toList.splitOn '\n').map Value.ofChars)) →
      (IsNotable job name → FindsSecrets job listed name script.toList s) ∧
      (¬ IsNotable job name → Script.MentionsSecret script.toList →
        (reportSecrets job listed).Stops s .longInteger) := by
  have hsilent : (reportSecrets job step).perform s = (.ok (), s) :=
    perform_reportSecrets_text hname hrun s
  refine ⟨hsilent, ⟨?_, fun hnone => ?_⟩, fun listed hname' hrun' =>
    ⟨fun hnotable => findsSecrets_lines hname' hrun' hnotable s, fun hnot hmentions =>
      reportSecrets_stops hname' hrun' rfl hnot (exists_line_iff.mpr hmentions) s⟩⟩
  · rintro ⟨count, hcount, hexact⟩
    have hzero := eq_zero_of_printed (Prod.mk.inj (hsilent.symm.trans hcount)).2.symm
    rw [← hexact, hzero]
    exact Nat.lt_irrefl 0
  · refine ⟨0, ?_, ⟨fun h => absurd h (Nat.lt_irrefl 0), fun h => absurd h hnone⟩⟩
    rw [hsilent]
    exact congrArg _ (Session.printed_nil s).symm

/-- A script with a reference to a secret in its second line. -/
def secretScript : String := "ls\necho $\x7b\x7b secrets.KEY \x7d\x7d"

/-- A step that has it. -/
def secretStep (script : Value) : Value :=
  .record [("name", .text "show"), ("run", script)]

theorem mentionsSecret_secretScript : Script.MentionsSecret secretScript.toList := by
  refine ⟨"echo $\x7b\x7b secrets.KEY \x7d\x7d".toList, by decide, ?_⟩
  exact Text.occursIn_iff.mp (by decide)

/-- The law at that script: it is not reviewed as it should be, but as the list of its lines it
is. -/
theorem secretScript_found_in_lines :
    ¬ FindsSecrets (.text "build") (secretStep (.text secretScript)) (.text "show")
        secretScript.toList {} ∧
      FindsSecrets (.text "build")
        (secretStep (.plainList ((secretScript.toList.splitOn '\n').map Value.ofChars)))
        (.text "show") secretScript.toList {} := by
  obtain ⟨-, hiff, hlines⟩ := secrets_found_iff_unmentioned (.text "build")
    (secretStep (.text secretScript)) rfl rfl {}
  exact ⟨fun h => hiff.mp h mentionsSecret_secretScript, (hlines _ rfl rfl).1 ⟨rfl, rfl⟩⟩

/-- Nothing is said of it, although its second line refers to a secret. -/
theorem mentioned_secret_not_said :
    Script.MentionsSecret secretScript.toList ∧
      ∃ s', (reportSecrets (.text "build") (secretStep (.text secretScript))).perform {} =
        (.ok (), s') ∧
        s'.log.printed = [] := by
  have hrun :
      (((reportSecrets (.text "build") (secretStep (.text secretScript))).perform {}).1.isOk &&
      ((reportSecrets (.text "build") (secretStep (.text secretScript))).perform
        {}).2.log.printed.isEmpty) = true := by decide +kernel
  obtain ⟨hok, hprinted⟩ := Bool.and_eq_true_iff.mp hrun
  obtain ⟨⟨⟩, s', hperform⟩ := exists_of_isOk hok
  rw [hperform] at hprinted
  exact ⟨mentionsSecret_secretScript, s', hperform, List.isEmpty_iff.mp hprinted⟩

/-! ## Reviews of extracted workflows -/

/-- A loop in which each item passes or is refused comes to the end exactly when all pass. -/
theorem forIn_refused {α : Type} {visit : α → PUnit → Except Failure (ForInStep PUnit)}
    (passes : α → Bool) {failure : Failure}
    (hvisit : ∀ a, visit a ⟨⟩ = if passes a then .ok (.yield ⟨⟩) else .error failure)
    (items : List α) :
    ForIn.forIn items ⟨⟩ visit = if items.all passes then .ok ⟨⟩ else .error failure := by
  induction items with
  | nil => rfl
  | cons a rest ih =>
    rw [List.forIn_cons, hvisit, List.all_cons]
    cases passes a with
    | true => exact ih
    | false => rfl

variable {heading : Heading} {triggers : Triggers} {found : List (Value × JobRecord)}

/-- The review of the value of a record is refused at the first step. -/
theorem reviewSteps_wholeValue (name : Value) :
    reviewSteps (.plainList [name, wholeValue heading triggers found]) =
      if found.all fun job => job.2.steps.isEmpty then .ok ()
      else .error (.argumentCount "run_analyzer" 3 4) := by
  have hpair : (Value.plainList [name, wholeValue heading triggers found]).pair =
      pure (name, wholeValue heading triggers found) := rfl
  have hjobs : (wholeValue heading triggers found).itemNamed "jobs" =
      pure (jobsToValue found) := rfl
  have hentries : (jobsToValue found).entriesFor "keys" =
      pure (found.map fun job => (job.1, job.2.toValue)) := rfl
  unfold reviewSteps
  simp only [hpair, hjobs, hentries, pure_bind]
  rw [List.forIn_map]
  rw [forIn_refused fun job : Value × JobRecord => job.2.steps.isEmpty]
  · cases found.all fun job => job.2.steps.isEmpty <;> rfl
  · rintro ⟨id, jobName, uses, conditional, permissions, steps⟩
    cases steps <;> rfl

theorem perform_reviewSteps (name : Value) (s : Session) :
    (Operation.reviewSteps (.plainList [name, wholeValue heading triggers found])).run.perform s =
      if found.all fun job => job.2.steps.isEmpty then (.ok .null, s)
      else (.error (.argumentCount "run_analyzer" 3 4), s) := by
  show (check (reviewSteps _) >>= fun _ => pure Value.null).perform s = _
  rw [perform_check_bind, reviewSteps_wholeValue]
  cases found.all fun job => job.2.steps.isEmpty <;> rfl

/-- The jobs of an extracted workflow have no steps exactly when those of its document have none. -/
theorem all_isEmpty_iff {source : Value} (h : SameJobs source (wholeValue heading triggers found)) :
    (found.all fun job => job.2.steps.isEmpty) = true ↔ source.namedSteps = [] := by
  rw [SameJobs, jobsIn_wholeValue, List.forall₂_map_right_iff] at h
  unfold Value.namedSteps
  generalize source.jobsIn = jobs at h ⊢
  induction h with
  | nil => simp
  | cons hjob _ ih =>
    -- the steps are numbered from one, and there are as many numbers as steps on either side
    have hlength := congrArg List.length hjob.2
    rw [stepsIn_toValue, List.length_map, List.length_map, List.length_map, List.length_range']
      at hlength
    rw [List.all_cons, Bool.and_eq_true, ih, List.flatMap_cons, List.append_eq_nil_iff,
      List.map_eq_nil_iff, List.isEmpty_iff_length_eq_zero, hlength, List.length_eq_zero_iff]

/-- **Reviews of extracted workflows end exactly when there are no steps.**  Let a workflow with
jobs be extracted from a text, in any session, and be reviewed under any name, in any session.  The
review does nothing to the session.  It comes to an end exactly when no job of the document has a
step, and otherwise fails because the analysis of a step takes three arguments and is given four. -/
theorem reviewed_iff_without_steps {text : String} {s s' : Session} {out : Value}
    (h : (Operation.extractWorkflow (.text text)).run.perform s = (.ok out, s'))
    (hjobs : ¬ out.Lacks "jobs") (name : Value) (t : Session) :
    ∃ source, Yaml.load text.toList = .ok source ∧
      ((Operation.reviewSteps (.plainList [name, out])).run.perform t = (.ok .null, t) ↔
        source.namedSteps = []) ∧
      (source.namedSteps ≠ [] →
        (Operation.reviewSteps (.plainList [name, out])).run.perform t =
          (.error (.argumentCount "run_analyzer" 3 4), t)) := by
  obtain ⟨source, record, found, rfl, hsource, hextracted⟩ := Extraction.exists_extracted h hjobs
  have hsame := hextracted.shaped.jobs
  obtain ⟨heading, triggers, on, rfl, -⟩ := hextracted.parts
  refine ⟨source, hsource, ?_⟩
  rw [perform_reviewSteps]
  by_cases hsteps : source.namedSteps = []
  · rw [if_pos ((all_isEmpty_iff hsame).mpr hsteps)]
    exact ⟨⟨fun _ => hsteps, fun _ => rfl⟩, fun hnot => absurd hsteps hnot⟩
  · rw [if_neg (mt (all_isEmpty_iff hsame).mp hsteps)]
    exact ⟨⟨fun hrun => (by cases hrun), fun hnone => absurd hnone hsteps⟩, fun _ => rfl⟩

/-- The law at a workflow with a script and an action: its review fails. -/
theorem build_review_refused :
    ∃ out s' source, (Operation.extractWorkflow (.text buildText)).run.perform buildSession =
        (.ok out, s') ∧
      ¬ out.Lacks "jobs" ∧ Yaml.load buildText.toList = .ok source ∧ source.namedSteps ≠ [] ∧
      (Operation.reviewSteps (.plainList [.text "build", out])).run.perform {} =
        (.error (.argumentCount "run_analyzer" 3 4), {}) := by
  obtain ⟨out, s', hrun, hjobs, -⟩ := exists_build
  obtain ⟨source, hsource, -, hrefused⟩ := reviewed_iff_without_steps hrun hjobs (.text "build") {}
  have hload : (Yaml.load buildText.toList).toOption.any
      (fun source => !source.namedSteps.isEmpty) = true := by decide +kernel
  obtain ⟨source', hsource', hsteps⟩ := exists_ok_of_any hload
  obtain rfl : source' = source := Except.ok.inj (hsource'.symm.trans hsource)
  have hsteps : source'.namedSteps ≠ [] := by simpa using hsteps
  exact ⟨out, s', source', hrun, hjobs, hsource, hsteps, hrefused hsteps⟩

/-- A workflow with one step, which does nothing. -/
def oneStepText : String := "\x7bon: push, jobs: \x7ba: \x7bsteps: [\x7b\x7d]\x7d\x7d\x7d"

/-- It is extracted with jobs, but its review fails. -/
theorem one_step_review_refused :
    ∃ out s', (Operation.extractWorkflow (.text oneStepText)).run.perform {} = (.ok out, s') ∧
      ¬ out.Lacks "jobs" ∧
      ∀ answer t, (Operation.reviewSteps (.plainList [.text "w", out])).run.perform {} ≠
        (.ok answer, t) := by
  have hout : ((Operation.extractWorkflow (.text oneStepText)).run.perform {}).1.toOption.any
      (fun out => (Entries.field? "jobs" (Report.entriesIn out)).isSome &&
        !((Operation.reviewSteps (.plainList [.text "w", out])).run.perform {}).1.isOk) = true := by
    decide +kernel
  obtain ⟨out, s', hrun, hout⟩ := exists_of_any hout
  obtain ⟨hjobs, hrefused⟩ := Bool.and_eq_true_iff.mp hout
  refine ⟨out, s', hrun, Option.isSome_iff_ne_none.mp hjobs, fun answer t hreview => ?_⟩
  rw [hreview] at hrefused
  cases hrefused

end Findings
end WorkflowAudit
