import WorkflowAudit.Proofs.Pinning
import WorkflowAudit.Proofs.PermissionFindings

/-! # How the issues of a workflow are classified

The issues of a workflow come in three groups: those of one flagged line, those of its jobs without
permissions, and those of its uses of actions.  The first two are read off the workflow
(`exposures_ok`, `permissionIssues_eq`).  The last depends on the tags as well, and `Verdict` gives
its rules, one for each case that can occur.

A use is judged by a chain of tests that overlap (`branchOf`).  Once a reference has failed to
match, no later test can find that it does, so one of the branches is never reached, and whether a
use is reported as not pinned is settled before its flag is looked at (`unpinned_iff_exists`).

`issues_classified` puts the groups together for the stored report of one workflow.
-/
namespace WorkflowAudit

/-! ## Only mappings have jobs -/

namespace Value

variable {kind : ListKind} {items : List Value} {index found : Value} {name : String}

/-- What an index of a list leads to is one of its items. -/
theorem mem_of_item (h : (Value.list kind items).item index = .ok found) : found ∈ items := by
  have hat : ∀ n, item.itemAt kind items n = .ok found → found ∈ items := by
    intro n hn
    unfold item.itemAt at hn
    split at hn
    · rename_i value hvalue
      obtain rfl := pure_ok.mp hn
      obtain ⟨k, -, hk⟩ := Option.bind_eq_some_iff.mp hvalue
      exact List.mem_of_getElem? hk
    · cases hn
  cases index with
  | int n => exact hat n h
  | bool b => exact hat _ h
  | _ => cases h

/-- An index of a list is a number, which has no items itself. -/
theorem itemNamed_ne_of_item (h : (Value.list kind items).item index = .ok found) (name : String)
    (w : Value) : index.itemNamed name ≠ .ok w := by
  intro hw
  cases index with
  | int n => cases hw
  | bool b => cases hw
  | _ => cases h

/-- The items of what is no mapping do not all lead to something that has an item of some name,
unless there are none. -/
theorem eq_nil_of_named {v : Value} {indices : List Value} (hitems : v.items = .ok indices)
    (hmap : ∀ kind entries, v ≠ .map kind entries)
    (hnamed : ∀ index ∈ indices, ∃ value w, v.item index = .ok value ∧
      value.itemNamed name = .ok w) : indices = [] := by
  refine List.eq_nil_iff_forall_not_mem.mpr fun index hindex => ?_
  obtain ⟨value, w, hvalue, hw⟩ := hnamed index hindex
  cases v with
  | map kind entries => exact hmap kind entries rfl
  | list kind items =>
    -- the index leads to an item, which is an index itself and leads on
    obtain rfl := pure_ok.mp hitems
    obtain ⟨other, -, hother, -⟩ := hnamed value (mem_of_item hvalue)
    exact itemNamed_ne_of_item hother name w hw
  | text s =>
    obtain rfl := pure_ok.mp hitems
    obtain ⟨c, -, rfl⟩ := List.mem_map.mp hindex
    cases hvalue
  | _ => cases hvalue

/-- Where each item leads to something that has an item of some name, the items are those of a
mapping. -/
theorem indexed_eq_of_named {jobs : Value} {list : List (Value × Except Failure Value)}
    (h : jobs.indexed = .ok list)
    (hnamed : ∀ job ∈ list, ∃ value w, job.2 = .ok value ∧ value.itemNamed name = .ok w) :
    list = (Report.entriesIn jobs).map fun entry => (entry.1, .ok entry.2) := by
  cases jobs with
  | map kind entries => exact (pure_ok.mp h).symm
  | _ =>
    obtain ⟨indices, hindices, h⟩ := bind_ok.mp h
    obtain rfl := pure_ok.mp h
    have hnil : indices = [] := eq_nil_of_named hindices (fun _ _ hmap => by cases hmap)
      fun index hindex => hnamed _ (List.mem_map.mpr ⟨index, hindex, rfl⟩)
    rw [hnil]
    rfl

end Value

namespace Findings

variable {workflow : Value}

/-- The jobs of a workflow whose steps were gone through are the entries of a mapping. -/
theorem indexed_of_foldSteps {α : Type} {visit : α → Value → Value → Except Failure α}
    {start found : α} (h : foldSteps visit start workflow = .ok found) :
    ∃ jobs, workflow.itemNamed "jobs" = .ok jobs ∧
      jobs.indexed = .ok (workflow.jobsIn.map fun job => (job.1, .ok job.2)) := by
  obtain ⟨jobs, hjobs, h⟩ := bind_ok.mp h
  obtain ⟨list, hlist, h⟩ := bind_ok.mp h
  have hnamed : ∀ job ∈ list, ∃ value steps, job.2 = .ok value ∧
      value.itemNamed "steps" = .ok steps := by
    intro job hjob
    obtain ⟨before, after, hvisit⟩ := exists_visit_of_foldlM h hjob
    obtain ⟨value, hvalue, hvisit⟩ := bind_ok.mp hvisit
    obtain ⟨steps, hsteps, -⟩ := bind_ok.mp hvisit
    exact ⟨value, steps, hvalue, hsteps⟩
  refine ⟨jobs, hjobs, ?_⟩
  rw [hlist, Value.indexed_eq_of_named hlist hnamed, Value.jobsIn, Value.under_of_itemNamed hjobs]

/-- The permissions of a workflow whose steps were gone through, one for each job in order. -/
theorem permissions_eq {runs : List Value} {granted : Permissions}
    (hruns : flaggedRuns workflow = .ok runs) (h : permissions workflow = .ok granted) :
    granted = ⟨workflow.under "permissions",
      workflow.jobsIn.map fun job => (job.1, job.2.under "permissions")⟩ := by
  obtain ⟨own, hown, h⟩ := bind_ok.mp h
  obtain ⟨jobs, hjobs, h⟩ := bind_ok.mp h
  obtain ⟨list, hlist, h⟩ := bind_ok.mp h
  obtain ⟨found, hfound, h⟩ := bind_ok.mp h
  obtain rfl := pure_ok.mp h
  obtain ⟨jobs', hjobs', hindexed⟩ := indexed_of_foldSteps hruns
  obtain rfl : jobs = jobs' := Except.ok.inj (hjobs.symm.trans hjobs')
  obtain rfl := Except.ok.inj (hlist.symm.trans hindexed)
  rw [mapM_ok, List.forall₂_map_left_iff] at hfound
  have hmap : found = workflow.jobsIn.map fun job => (job.1, job.2.under "permissions") := by
    rw [← List.forall₂_eq_eq_eq, List.forall₂_map_right_iff]
    refine hfound.flip.imp fun entry job hjob => ?_
    obtain ⟨value, hvalue, hjob⟩ := bind_ok.mp hjob
    obtain rfl := Except.ok.inj hvalue
    obtain ⟨own, hown, hjob⟩ := bind_ok.mp hjob
    rw [← pure_ok.mp hjob, Value.under_of_field hown]
  rw [Value.under_of_field hown, hmap]

end Findings

namespace Report

open Audit Findings

/-! ## Jobs without permissions -/

/-- The label for the jobs without permissions of a workflow, which is the same for all of them. -/
def sharedLabel (workflow : Value) : Label :=
  if (workflow.under "permissions").equal (.text "None") then .noDeclaration
  else .onlyWorkflowDeclaration

/-- One issue for each job without permissions, in the order of the jobs. -/
def unpermitted (workflow : Value) : List Issue :=
  (workflow.jobsIn.filter fun job => !(job.2.under "permissions").isTruthy).map fun job =>
    .about job.1 (sharedLabel workflow)

theorem permissionIssues_eq {workflow : Value} {r : Reading} (h : Reads workflow r) :
    permissionIssues r.permissions = unpermitted workflow := by
  rw [permissions_eq h.runs h.permissions]
  unfold permissionIssues unpermitted
  rw [List.filter_map, List.map_map]
  rfl

/-! ## The verdict on a use -/

variable {tags : Value} {use : ActionUse}

/-- What follows the last at sign in a use of an action. -/
def RefersTo (use : ActionUse) (reference : List Char) : Prop :=
  ∃ chars, use.uses.splitChars = .ok chars ∧ reference = Text.afterLast '@' chars

/-- The rules by which a use of an action gives issues.  A reference that matches is compared with
the newest tag; for one that does not match, the flag counts. -/
inductive Verdict (tags : Value) (use : ActionUse) : List Issue → Prop where
  | current {reference : List Char} (href : RefersTo use reference)
    (hmatch : Pattern.textMatches reference commitDigest = .ok true)
    (hnewest : newestDigest tags = .ok (.ofChars reference)) : Verdict tags use []
  | superseded {reference : List Char} {digest : Value} (href : RefersTo use reference)
    (hmatch : Pattern.textMatches reference commitDigest = .ok true)
    (hnewest : newestDigest tags = .ok digest) (hne : digest ≠ .ofChars reference) :
    Verdict tags use [.about use.job .outOfDate]
  | outdated {reference : List Char} (href : RefersTo use reference)
    (hmatch : Pattern.textMatches reference commitDigest = .ok false)
    (hflag : use.upToDate.isTruthy = false) :
    Verdict tags use [.about use.job .outOfDate, .about use.job .notPinned]
  | unpinned {reference : List Char} (href : RefersTo use reference)
    (hmatch : Pattern.textMatches reference commitDigest = .ok false)
    (hflag : use.upToDate.isTruthy = true) : Verdict tags use [.about use.job .notPinned]

/-- A use that can be judged is judged by the rules. -/
theorem verdict_useIssues {judged : List Label × Bool} (h : useLabels tags use = .ok judged) :
    Verdict tags use (useIssues tags use) := by
  have hissues : useIssues tags use = judged.1.map (Issue.about use.job) := by
    unfold useIssues
    rw [h]
  rw [hissues]
  rw [useLabels_eq] at h
  obtain ⟨chars, hchars, h⟩ := bind_ok.mp h
  obtain ⟨matched, hmatched, h⟩ := bind_ok.mp h
  have href : RefersTo use (Text.afterLast '@' chars) := ⟨chars, hchars, rfl⟩
  cases matched with
  | true =>
    rw [if_pos rfl] at h
    obtain ⟨digest, hdigest, h⟩ := bind_ok.mp h
    by_cases hequal : (Value.ofChars (Text.afterLast '@' chars)).equal digest = true
    · rw [if_pos hequal] at h
      obtain rfl := pure_ok.mp h
      obtain rfl := Value.text_equal_iff.mp hequal
      exact .current href hmatched hdigest
    · rw [if_neg hequal] at h
      obtain rfl := pure_ok.mp h
      exact .superseded href hmatched hdigest fun hsame => hequal (Value.text_equal_iff.mpr hsame)
  | false =>
    rw [if_neg Bool.false_ne_true] at h
    cases hflag : use.upToDate.isTruthy with
    | true =>
      rw [hflag, if_pos rfl] at h
      obtain rfl := pure_ok.mp h
      exact .unpinned href hmatched hflag
    | false =>
      rw [hflag, if_neg Bool.false_ne_true] at h
      obtain rfl := pure_ok.mp h
      exact .outdated href hmatched hflag

/-! ## The chain of tests -/

/-- The branch for a flag that is false and a reference that matches is never taken. -/
theorem branchOf_ne_falseMatching (reference : List Char) (flag : Value) :
    branchOf reference flag ≠ .ok .falseMatching := by
  intro h
  rw [branchOf_eq] at h
  obtain ⟨matched, -, h⟩ := bind_ok.mp h
  split at h
  · cases pure_ok.mp h
  · split at h <;> cases pure_ok.mp h

/-! ## Pinning does not depend on the flag -/

/-- A reference that does not match settles the verdict: the tags are not looked at, so nothing can
fail, and the flag decides on the other label only. -/
theorem useLabels_of_no_match (tags : Value) {chars : List Char}
    (hchars : use.uses.splitChars = .ok chars)
    (hmatch : Pattern.textMatches (Text.afterLast '@' chars) commitDigest = .ok false) :
    useLabels tags use =
      .ok (if use.upToDate.isTruthy then [.notPinned] else [.outOfDate, .notPinned], false) := by
  rw [useLabels_eq]
  cases hflag : use.upToDate.isTruthy with
  | true => exact bind_ok.mpr ⟨chars, hchars, bind_ok.mpr ⟨false, hmatch, by rw [hflag]; rfl⟩⟩
  | false => exact bind_ok.mpr ⟨chars, hchars, bind_ok.mpr ⟨false, hmatch, by rw [hflag]; rfl⟩⟩

/-- A use is reported as not pinned when its reference can be told and does not match. -/
theorem unpinned_iff_exists (tags : Value) (use : ActionUse) :
    Unpinned tags use ↔ ∃ reference, RefersTo use reference ∧
      Pattern.textMatches reference commitDigest = .ok false := by
  constructor
  · intro h
    cases hjudged : useLabels tags use with
    | error failure =>
      unfold Unpinned useIssues at h
      rw [hjudged] at h
      cases h
    | ok judged =>
      obtain ⟨chars, hchars, hiff⟩ := unpinned_iff hjudged
      exact ⟨_, ⟨chars, hchars, rfl⟩, hiff.mp h⟩
  · rintro ⟨_, ⟨chars, hchars, rfl⟩, hmatch⟩
    have hjudged := useLabels_of_no_match tags hchars hmatch
    obtain ⟨chars', hchars', hiff⟩ := unpinned_iff hjudged
    obtain rfl : chars = chars' := Except.ok.inj (hchars.symm.trans hchars')
    exact hiff.mpr hmatch

theorem unpinned_of_flag (tags : Value) (use : ActionUse) (flag : Value) :
    Unpinned tags { use with upToDate := flag } ↔ Unpinned tags use := by
  rw [unpinned_iff_exists, unpinned_iff_exists]
  rfl

/-! ## The groups of issues -/

/-- The issues of a workflow are those of a flagged line, of its jobs without permissions and of its
uses of actions, in this order and with nothing between them. -/
inductive Classified (workflow tags : Value) : List Issue → Prop where
  | groups {runs : List Value} {uses : List ActionUse} {exposed : List Issue}
    (hruns : flaggedRuns workflow = .ok runs) (huses : actionUses workflow = .ok uses)
    (hexposed : runs = [] ∧ exposed = [] ∨ ∃ line, IsFirstLine runs line ∧
      exposed = [.exposure (mentioned criticalContexts line) line,
        .exposure (mentioned criticalSecrets line) line])
    (hverdicts : ∀ use ∈ uses, Verdict tags use (useIssues tags use)) :
    Classified workflow tags (exposed ++ unpermitted workflow ++ uses.flatMap (useIssues tags))

theorem classified_of_reads {workflow : Value} {r : Reading} (h : Reads workflow r)
    (hjudged : ∀ use ∈ r.uses, ∃ judged, useLabels tags use = .ok judged) :
    Classified workflow tags (r.issues tags) := by
  have hexposed : r.runs = [] ∧ r.exposed = [] ∨ ∃ line, IsFirstLine r.runs line ∧
      r.exposed = [.exposure (mentioned criticalContexts line) line,
        .exposure (mentioned criticalSecrets line) line] := by
    rcases exposures_ok h.exposed with hnone | ⟨run, rest, flagged, value, line, hruns, hflagged,
      hvalue, hline, hexposed⟩
    · exact .inl hnone
    · have hfirst : lineOf flagged = .ok line := bind_ok.mpr ⟨value, hvalue, hline⟩
      exact .inr ⟨line, ⟨run, rest, flagged, hruns, hflagged, hfirst⟩, hexposed⟩
  have hverdicts : ∀ use ∈ r.uses, Verdict tags use (useIssues tags use) := by
    intro use huse
    obtain ⟨judged, hjudged⟩ := hjudged use huse
    exact verdict_useIssues hjudged
  rw [Reading.issues, permissionIssues_eq h]
  exact .groups h.runs h.uses hexposed hverdicts

/-- **The issues of a workflow are classified.**  The stored report of a workflow alone, if it has a
trigger, has one entry, whose issues are in three groups: the two of its first flagged line, if it
has one; one for each job without permissions, all with one label; and those that the rules of
`Verdict` give for its uses of actions and the tags of the repository.

The uses get their labels from a chain of tests, which comes to two of them.  Its branch for a flag
that is false and a reference that matches is never taken, and whether a use is reported as not
pinned does not depend on the flag. -/
theorem issues_classified {workflow file id repository content : Value} {s s' : Session}
    (htrigger : HasTrigger workflow)
    (h : (store (.map .plain [(file, .plainList [workflow])]) id repository).perform s =
      (.ok content, s')) :
    (∃ name trigger tags issues, workflow.field "name" = .ok name ∧ TagsAre repository tags s ∧
      content = Report.toValue Label.description [(file, [(name, ⟨trigger, issues⟩)])] ∧
      Classified workflow tags issues) ∧
    (∀ tags use, useLabels tags use = testedLabels tags use) ∧
    (∀ reference flag, branchOf reference flag ≠ .ok .falseMatching) ∧
    (∀ tags use flag, Unpinned tags { use with upToDate := flag } ↔ Unpinned tags use) := by
  refine ⟨?_, useLabels_eq, branchOf_ne_falseMatching, unpinned_of_flag⟩
  obtain ⟨r, trigger, tags, hreads, -, htags, hjudged, hcontent⟩ := store_single_enters htrigger h
  exact ⟨r.name, trigger, tags, r.issues tags, hreads.name, htags, hcontent,
    classified_of_reads hreads hjudged⟩

/-! ### A workflow with issues of every kind -/

/-- A workflow with a flagged line, a job without permissions, and a use of an action. -/
def mixedWorkflow : Value :=
  .record [("name", .text "wf"),
    ("events", .plainList [.record [("type", .text "push"), ("security_rank", .int 1)]]),
    ("permissions", .text "None"),
    ("jobs", .record [
      ("build", .record [("permissions", .null), ("steps", .plainList [.record [
        ("security", .record [("runs", .plainList [.record [("line", .text actorLine)]])])]])]),
      ("test", .record [("permissions", .text "read"), ("steps", .plainList [.record [
        ("security", .record [(upToDateField, .bool false)]), ("uses", .text "o/r@v1")]])])])]

example :
    returns ((store (.map .plain (oneFile mixedWorkflow)) (.text "id1") (.text "own/repo")).perform
        untaggedSession).1
      (Report.toValue Label.description [(.text "own/repo", [(.text "wf", ⟨(.text "push", .int 1),
        [.exposure ["ACTOR"] actorLine.toList, .exposure [] actorLine.toList,
          .about (.text "build") .noDeclaration, .about (.text "test") .outOfDate,
          .about (.text "test") .notPinned]⟩)])]) = true := by
  decide +kernel

/-- The classification at a workflow with issues of every kind. -/
theorem mixed_issues_classified :
    ∃ content s' tags issues, HasTrigger mixedWorkflow ∧
      (store (.map .plain [(.text "own/repo", .plainList [mixedWorkflow])]) (.text "id1")
        (.text "own/repo")).perform untaggedSession = (.ok content, s') ∧
      Classified mixedWorkflow tags issues ∧
      ∃ trigger, content = Report.toValue Label.description
        [(.text "own/repo", [(.text "wf", ⟨trigger, issues⟩)])] := by
  have hok : ((store (.map .plain [(.text "own/repo", .plainList [mixedWorkflow])]) (.text "id1")
      (.text "own/repo")).perform untaggedSession).1.isOk = true := by decide +kernel
  obtain ⟨content, s', hrun⟩ := exists_of_isOk hok
  have htrigger : HasTrigger mixedWorkflow := ⟨_, _, _, rfl, rfl⟩
  obtain ⟨⟨name, trigger, tags, issues, hname, -, hcontent, hclassified⟩, -⟩ :=
    issues_classified htrigger hrun
  obtain rfl : .text "wf" = name := Except.ok.inj hname
  exact ⟨content, s', tags, issues, htrigger, hrun, hclassified, trigger, hcontent⟩

end Report

end WorkflowAudit
