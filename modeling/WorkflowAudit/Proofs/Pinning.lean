import WorkflowAudit.Proofs.Assessment
import WorkflowAudit.Proofs.PlainPatterns

/-! # Pinned references

A use of an action is pinned when its reference, what follows the last at sign, is a commit: forty
hexadecimal digits.  A report does not ask that.  It reads the *reference* as a pattern and looks
whether it matches the beginning of the text that describes commits (`Report.commitDigest`), which
starts with a bracket.

So a commit is never taken for one: its first digit is not a bracket (`textMatches_of_plain_head`).
`pinning_verdict` gives the exact condition under which a use is reported as not pinned, in every
report that is stored or written, and with it the references for which the verdict is the one that
is meant: those that are no commits and do not match.
-/
namespace WorkflowAudit
namespace Report

open Audit Findings

/-! ## References -/

/-- Whether a character is one of the digits of a commit. -/
def isDigestDigit (c : Char) : Bool :=
  "0123456789abcdef".toList.contains c

/-- A reference is a commit. -/
def IsCommit (reference : List Char) : Prop :=
  reference.length = 40 ∧ reference.all isDigestDigit = true

theorem isMark_of_isDigestDigit {c : Char} (h : isDigestDigit c = true) :
    Pattern.isMark c = false := by
  have hnone : "0123456789abcdef".toList.all (fun d => !Pattern.isMark d) = true := by decide
  have hc := List.all_eq_true.mp hnone c (List.contains_iff_mem.mp h)
  simpa using hc

/-- A text without marks that does not start with a dot matches no description of commits. -/
theorem textMatches_of_plain_head {c : Char} {rest : List Char} (hplain : Pattern.Plain (c :: rest))
    (hdot : c ≠ '.') : Pattern.textMatches (c :: rest) commitDigest = .ok false := by
  -- the description of commits starts with a bracket, which is a mark
  have hbracket : c ≠ '[' := by
    rintro rfl
    exact absurd (hplain '[' List.mem_cons_self) (by decide)
  rw [Pattern.textMatches_of_plain hplain]
  show Except.ok (Pattern.standsFor c '[' && _) = _
  simp [Pattern.standsFor, hdot, hbracket]

/-- A commit does not match the description of commits. -/
theorem textMatches_of_isCommit {reference : List Char} (h : IsCommit reference) :
    Pattern.textMatches reference commitDigest = .ok false := by
  obtain ⟨hlength, hdigits⟩ := h
  rw [List.all_eq_true] at hdigits
  have hplain : Pattern.Plain reference := fun c hc => isMark_of_isDigestDigit (hdigits c hc)
  cases reference with
  | nil => cases hlength
  | cons c rest =>
    refine textMatches_of_plain_head hplain ?_
    rintro rfl
    exact absurd (hdigits '.' List.mem_cons_self) (by decide)

/-! ## The verdict on a use -/

/-- A use of an action is reported as not pinned. -/
def Unpinned (tags : Value) (use : ActionUse) : Prop :=
  .about use.job .notPinned ∈ useIssues tags use

/-- The labels of a use that was judged: `notPinned` is among them exactly when the reference of the
use does not match. -/
theorem notPinned_mem_labels {tags : Value} {use : ActionUse} {labels : List Label}
    {announced : Bool} (h : useLabels tags use = .ok (labels, announced)) :
    ∃ chars, use.uses.splitChars = .ok chars ∧
      (.notPinned ∈ labels ↔
        Pattern.textMatches (Text.afterLast '@' chars) commitDigest = .ok false) := by
  rw [useLabels_eq] at h
  obtain ⟨chars, hchars, h⟩ := bind_ok.mp h
  obtain ⟨matched, hmatched, h⟩ := bind_ok.mp h
  refine ⟨chars, hchars, ?_⟩
  rw [hmatched]
  cases matched with
  | true =>
    -- a use that matches can be out of date, and nothing else
    rw [if_pos rfl] at h
    obtain ⟨newest, -, h⟩ := bind_ok.mp h
    split at h
    · obtain ⟨rfl, -⟩ := Prod.mk.inj (pure_ok.mp h)
      simp
    · obtain ⟨rfl, -⟩ := Prod.mk.inj (pure_ok.mp h)
      simp
  | false =>
    rw [if_neg Bool.false_ne_true] at h
    split at h
    · obtain ⟨rfl, -⟩ := Prod.mk.inj (pure_ok.mp h)
      simp
    · obtain ⟨rfl, -⟩ := Prod.mk.inj (pure_ok.mp h)
      simp

/-- A use that was judged is reported as not pinned exactly when its reference does not match. -/
theorem unpinned_iff {tags : Value} {use : ActionUse} {verdict : List Label × Bool}
    (h : useLabels tags use = .ok verdict) :
    ∃ chars, use.uses.splitChars = .ok chars ∧
      (Unpinned tags use ↔
        Pattern.textMatches (Text.afterLast '@' chars) commitDigest = .ok false) := by
  obtain ⟨labels, announced⟩ := verdict
  obtain ⟨chars, hchars, hlabels⟩ := notPinned_mem_labels h
  refine ⟨chars, hchars, ?_⟩
  unfold Unpinned useIssues
  rw [h, ← hlabels]
  simp

/-- What is meant by pinning: a use is reported as not pinned exactly when its reference is no
commit. -/
def JudgedAsMeant (tags : Value) (use : ActionUse) (reference : List Char) : Prop :=
  (IsCommit reference → ¬ Unpinned tags use) ∧ (¬ IsCommit reference → Unpinned tags use)

/-- How a use is judged. -/
structure PinVerdict (tags : Value) (use : ActionUse) (reference : List Char) : Prop where
  /-- The reference is read as a pattern. -/
  unpinned_iff_no_match :
    Unpinned tags use ↔ Pattern.textMatches reference commitDigest = .ok false
  /-- A commit is reported as not pinned, always. -/
  unpinned_of_commit : IsCommit reference → Unpinned tags use
  /-- So is every other reference without marks that does not start with a dot. -/
  unpinned_of_plain : Pattern.Plain reference → reference ≠ [] → reference.head? ≠ some '.' →
    Unpinned tags use
  /-- The verdict is the one that is meant for references that are no commits and do not match, and
  for no others. -/
  judgedAsMeant_iff : JudgedAsMeant tags use reference ↔
    ¬ IsCommit reference ∧ Pattern.textMatches reference commitDigest = .ok false

theorem pinVerdict_of_iff {tags : Value} {use : ActionUse} {reference : List Char}
    (h : Unpinned tags use ↔ Pattern.textMatches reference commitDigest = .ok false) :
    PinVerdict tags use reference := by
  have hcommit : IsCommit reference → Unpinned tags use := fun hc =>
    h.mpr (textMatches_of_isCommit hc)
  refine ⟨h, hcommit, fun hplain hne hdot => ?_, ⟨fun hmeant => ?_, fun ⟨hno, hmatch⟩ => ?_⟩⟩
  · cases reference with
    | nil => exact absurd rfl hne
    | cons c rest => exact h.mpr (textMatches_of_plain_head hplain fun hc => hdot (by rw [hc]; rfl))
  · have hno : ¬ IsCommit reference := fun hc => hmeant.1 hc (hcommit hc)
    exact ⟨hno, h.mp (hmeant.2 hno)⟩
  · exact ⟨fun hc => absurd hc hno, fun _ => h.mpr hmatch⟩

/-! ## Stored and written reports -/

/-- Every use of an action in every workflow of every file is judged by its reference as a
pattern. -/
def PinsJudged (entries : Entries) (report : Report) : Prop :=
  ∀ file listed earlier workflow later, (file, listed) ∈ entries →
    listed.items = .ok (earlier ++ workflow :: later) →
      ∃ place : Place report file earlier workflow later,
        ∀ use ∈ place.reading.uses, ∃ chars, use.uses.splitChars = .ok chars ∧
          PinVerdict place.tags use (Text.afterLast '@' chars)

theorem pinsJudged_of_build {tagsFor : Value → Audit Value} {kind : MapKind} {entries : Entries}
    {report : Report} {s s' : Session} (hdistinct : Entries.Distinct entries)
    (h : (build tagsFor (.map kind entries)).perform s = (.ok report, s')) :
    PinsJudged entries report := by
  intro file listed earlier workflow later hfile hlisted
  obtain ⟨place⟩ := exists_place hdistinct (build_ok hdistinct h) hfile hlisted
  refine ⟨place, fun use huse => ?_⟩
  obtain ⟨verdict, hverdict⟩ := place.judged use huse
  obtain ⟨chars, hchars, hiff⟩ := unpinned_iff hverdict
  exact ⟨chars, hchars, pinVerdict_of_iff hiff⟩

/-- **A use is reported as not pinned when its reference does not match as a pattern.**  In every
report that is stored, and in every report that is written, each use of an action gets the verdict
of `PinVerdict`: commits are always reported, and the verdict is the one that is meant exactly for
the references that are no commits and do not match. -/
theorem pinning_verdict {kind : MapKind} {entries : Entries}
    (hdistinct : Entries.Distinct entries) :
    (∀ id repository content s s',
      (store (.map kind entries) id repository).perform s = (.ok content, s') →
        ∃ report, content = Report.toValue Label.description report ∧ PinsJudged entries report) ∧
    (∀ settings s s', Saves settings s (.map kind entries) →
      (write settings).perform s = (.ok (), s') →
        ∃ report destination text, setting "dest" settings = .ok destination ∧
          Json.write (Report.toValue Label.name report) = .ok text ∧
          s.files.writeText (String.ofList destination.displayed) text = .ok s'.files ∧
          PinsJudged entries report) := by
  refine ⟨fun id repository content s s' h => ?_, fun settings s s' hsaved h => ?_⟩
  · obtain ⟨report, s₁, hbuild, hcontent, -⟩ := perform_store_ok.mp h
    exact ⟨report, hcontent, pinsJudged_of_build hdistinct hbuild⟩
  · obtain ⟨report, s₁, destination, text, hbuild, hdestination, htext, hwritten⟩ :=
      exists_build_of_write hsaved h
    exact ⟨report, destination, text, hdestination, htext, hwritten,
      pinsJudged_of_build hdistinct hbuild⟩

/-! ### A use that is pinned to a commit -/

/-- A use of an action, pinned to a commit. -/
def commitUse : ActionUse :=
  ⟨.text "job", .text "o/r@8f4b7f84864484a7bf31766abe9204da3cbe65b3", .bool true⟩

/-- A workflow with one job and one step, which uses an action. -/
def workflowUsing (use : ActionUse) : Value :=
  .record [("name", .text "wf"),
    ("events", .plainList [.record [("type", .text "push"), ("security_rank", .int 1)]]),
    ("permissions", .text "None"),
    ("jobs", .map .plain [(use.job, .record [("permissions", .text "read"),
      ("steps", .plainList [.record [
        ("security", .record [(upToDateField, use.upToDate)]), ("uses", use.uses)]])])])]

/-- A session that knows the tags of the repository, in its store and from the service, and has the
workflow saved.  The newest tag is the commit in use. -/
def taggedSession : Session :=
  { store := [(Release.tagsCache, [.record [("repo", .text "own/repo"),
      ("tags", .plainList [.record [("commit", .record [
        ("sha", .text "8f4b7f84864484a7bf31766abe9204da3cbe65b3")])]])]])]
    answers := [("/repos/own/repo/tags", [⟨200, "[]"⟩])]
    files := [(["savedDictWfs.dat"], .saved (.map .plain (oneFile (workflowUsing commitUse))))] }

theorem unpinned_commitUse {report : Report}
    (h : PinsJudged (oneFile (workflowUsing commitUse)) report) :
    ∃ place : Place report (.text "own/repo") [] (workflowUsing commitUse) [],
      Unpinned place.tags commitUse := by
  obtain ⟨place, hverdicts⟩ := h (.text "own/repo") _ [] _ [] List.mem_cons_self rfl
  have huses : place.reading.uses = [commitUse] := Except.ok.inj (place.reads.uses.symm.trans rfl)
  obtain ⟨chars, hchars, hverdict⟩ := hverdicts commitUse (by rw [huses]; exact List.mem_cons_self)
  obtain rfl : "o/r@8f4b7f84864484a7bf31766abe9204da3cbe65b3".toList = chars := Except.ok.inj hchars
  have hcommit : IsCommit (Text.afterLast '@'
      "o/r@8f4b7f84864484a7bf31766abe9204da3cbe65b3".toList) := by
    unfold IsCommit
    decide +kernel
  exact ⟨place, hverdict.unpinned_of_commit hcommit⟩

/-- The verdict at a use that is pinned to a commit, in a stored and in a written report: both are
made, and both report the use as not pinned. -/
theorem pinning_verdict_of_commitUse :
    (∃ content s' report, (store (.map .plain (oneFile (workflowUsing commitUse))) (.text "id1")
        (.text "own/repo")).perform taggedSession = (.ok content, s') ∧
      content = Report.toValue Label.description report ∧
      ∃ place : Place report (.text "own/repo") [] (workflowUsing commitUse) [],
        Unpinned place.tags commitUse) ∧
    (∃ s' report, (write hereToOut).perform taggedSession = (.ok (), s') ∧
      ∃ place : Place report (.text "own/repo") [] (workflowUsing commitUse) [],
        Unpinned place.tags commitUse) := by
  have hdistinct : Entries.Distinct (oneFile (workflowUsing commitUse)) :=
    List.pairwise_singleton _ _
  obtain ⟨hstore, hwrite⟩ := @pinning_verdict .plain _ hdistinct
  constructor
  · have hok : ((store (.map .plain (oneFile (workflowUsing commitUse))) (.text "id1")
        (.text "own/repo")).perform taggedSession).1.isOk = true := by decide +kernel
    obtain ⟨content, s', hrun⟩ := exists_of_isOk hok
    obtain ⟨report, hcontent, hjudged⟩ := hstore _ _ _ _ _ hrun
    exact ⟨content, s', report, hrun, hcontent, unpinned_commitUse hjudged⟩
  · have hok : ((write hereToOut).perform taggedSession).1.isOk = true := by decide +kernel
    obtain ⟨⟨⟩, s', hrun⟩ := exists_of_isOk hok
    obtain ⟨report, destination, -, -, -, -, hjudged⟩ := hwrite _ _ _ (saves_here rfl) hrun
    exact ⟨s', report, hrun, unpinned_commitUse hjudged⟩

/-- A use that is pinned to the commit of the newest tag is reported as not pinned. -/
theorem commit_reported_unpinned :
    returns ((store (.map .plain (oneFile (workflowUsing commitUse))) (.text "id1")
        (.text "own/repo")).perform taggedSession).1
      (Report.toValue Label.description [(.text "own/repo", [(.text "wf",
        ⟨(.text "push", .int 1), [.about (.text "job") .notPinned]⟩)])]) = true := by
  decide +kernel

end Report

end WorkflowAudit
