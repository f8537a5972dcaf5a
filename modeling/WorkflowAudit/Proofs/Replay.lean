import WorkflowAudit.Proofs.Caches
import WorkflowAudit.Proofs.Records

/-! # Extraction without the service

To extract a workflow the service is asked for the releases of the actions it uses, and what it
answers goes into the store.  A workflow that was extracted with its jobs has had all its answers,
so it can be extracted again from the store alone.

A task can be replayed (`Audit.Replays`) when every run of it that gives a result leaves a store
from which it gives the same result again, and then does nothing but print.  A lookup can be
replayed, for a release that was returned is known.  So can tasks in a row, since the store only
grows: what the first task has left for its replay is still there when the second one is done.

The jobs of a workflow are extracted by such tasks.  A workflow as a whole is not, because a failure
in its jobs is caught, and what has failed may succeed the next time; but if there are jobs then
nothing was caught.  `extraction_replays_offline` is for those.
-/
namespace WorkflowAudit

open Audit

namespace Audit

variable {α β : Type}

/-- A task keeps what is in the store, and once it has given a result it gives it again, wherever
the store it has left has only grown, and all it does there is print. -/
structure Replays (task : Audit α) : Prop where
  grows : task.Keeps CachesKept
  again {s s' t : Session} {a : α} (h : task.perform s = (.ok a, s')) (ht : CachesKept s' t) :
    task.Says t a

namespace Replays

theorem pure (a : α) : (Pure.pure a : Audit α).Replays where
  grows := CachesKept.course.pure a
  again h _ := by
    obtain ⟨rfl, -⟩ := perform_pure_ok.mp h
    exact .pure _

theorem check (result : Except Failure α) : (Audit.check result).Replays where
  grows := CachesKept.course.check result
  again h _ := .check (perform_check_ok.mp h).1

theorem bind {task : Audit α} {next : α → Audit β} (h : task.Replays)
    (hnext : ∀ a, (next a).Replays) :
    (task >>= next).Replays where
  grows := CachesKept.course.bind h.grows fun a => (hnext a).grows
  again {s s' t b} hrun ht := by
    obtain ⟨a, s₁, hfirst, hsecond⟩ := perform_bind_ok.mp hrun
    -- the second task has kept what the replay of the first one needs
    have hkept : CachesKept s₁ s' := by
      have hgrown := (hnext a).grows s₁
      rw [hsecond] at hgrown
      exact hgrown
    have hprinted : ∀ said, CachesKept t (t.printed said) := fun said =>
      CachesKept.course.effect (.printed t said)
    refine (h.again hfirst (CachesKept.course.trans hkept ht)).bind fun said => ?_
    exact (hnext a).again hsecond (CachesKept.course.trans ht (hprinted said))

theorem map (f : α → β) {task : Audit α} (h : task.Replays) : (f <$> task).Replays := by
  rw [map_eq_pure_bind]
  exact h.bind fun a => .pure (f a)

end Replays

end Audit

/-! ## Lookups -/

namespace Release

theorem replays_latest (client : Client) (action : Value) : (latest client action).Replays where
  grows := CachesKept.keeps_latest client action
  again h ht :=
    ⟨_, perform_latest_of_known (isShowable_of_latest h)
      (Store.findOne?_of_prefix (ht.grown _) (known_of_latest h))⟩

theorem replays_isUpToDate (use : Value) : (isUpToDate use).Replays := by
  unfold isUpToDate
  refine .bind (.check _) fun text => ?_
  dsimp only
  split
  · exact .pure true
  · refine .bind (replays_latest .extractor _) fun release => ?_
    exact .bind (.check _) fun newest => .pure _

end Release

/-! ## Jobs and steps -/

namespace Extraction

variable (workflowCondition jobCondition : Value)

theorem replays_step (position : Nat) (source : Value) :
    (step position jobCondition workflowCondition source).Replays := by
  unfold step
  refine .bind (.check _) fun name => .bind (.check _) fun conditional => ?_
  refine .bind (.check _) fun uses => .bind (.check _) fun script => ?_
  extract_lets summarize
  have hsummarize : ∀ security, (summarize security).Replays := by
    intro security
    unfold summarize
    split
    · exact .pure _
    · exact .bind (.check _) fun text => .bind (.check _) fun encoded =>
        .bind (.check _) fun lines => .pure _
  split
  · exact .bind (.map _ (Release.replays_isUpToDate uses)) hsummarize
  · exact .bind (.pure _) hsummarize

theorem replays_stepsFrom (position : Nat) (sources : List Value) :
    (stepsFrom jobCondition workflowCondition position sources).Replays := by
  induction sources generalizing position with
  | nil => exact .pure []
  | cons source rest ih =>
    refine .bind (replays_step workflowCondition jobCondition position source) fun record => ?_
    exact .bind (ih (position + 1)) fun others => .pure _

theorem replays_job (source : Value) : (job workflowCondition source).Replays := by
  unfold job
  refine .bind (.check _) fun name => .bind (.check _) fun uses => ?_
  refine .bind (.check _) fun conditional => .bind (.check _) fun permissions => ?_
  refine .bind (.check _) fun sources =>
    .bind (.bind (.check _) fun items => ?_) fun records => .pure _
  exact replays_stepsFrom workflowCondition _ 1 items

theorem replays_jobEntries (entries : Entries) :
    (jobEntries workflowCondition entries).Replays := by
  induction entries with
  | nil => exact .pure []
  | cons entry rest ih =>
    obtain ⟨id, source⟩ := entry
    refine .bind (replays_job workflowCondition source) fun record => ?_
    exact .bind ih fun others => .pure _

theorem replays_jobs (sources : Value) : (jobs sources workflowCondition).Replays :=
  .bind (.check _) fun entries => replays_jobEntries workflowCondition entries

/-! ## Workflows -/

variable {source : Value} {record : WorkflowRecord} {found : List (Value × JobRecord)}
  {s s' t : Session}

/-- A document whose jobs are found once more gives its record once more. -/
theorem Extracted.says_ofDocument (h : Extracted source record found s s') (ht : CachesKept s' t) :
    (ofDocument source).Says t record := by
  obtain ⟨heading, triggers, on, rfl, hheading, hon, htriggers⟩ := h.parts
  have hjobs := (replays_jobs _ _).again h.jobs ht
  rw [under_if_of_headingOf hheading] at hjobs
  have hnull : source.isNull = false := by
    cases source with
    | null => cases hheading
    | _ => rfl
  unfold ofDocument
  simp only [hnull, Bool.false_eq_true, if_false, hheading, hon, htriggers]
  exact .bind (.tryCatch (hjobs.map some)) fun said => .pure _

/-- **Extraction can be replayed offline.**  Let a workflow with jobs be extracted from a text, in
any session, and let any operations follow, each of them successful or not.  In any session with the
store that they have left, the same text gives the same workflow, and nothing happens but that
something is printed: the service is not asked, there is no wait, and nothing is put in, whatever
answers, tokens and time the session has. -/
theorem extraction_replays_offline {text : String} {out : Value}
    (h : (Operation.extractWorkflow (.text text)).run.perform s = (.ok out, s'))
    (hjobs : ¬ out.Lacks "jobs") (more : List Operation) (ht : t.store = (s'.after more).store) :
    ∃ said, (Operation.extractWorkflow (.text text)).run.perform t = (.ok out, t.printed said) := by
  obtain ⟨source, record, found, rfl, hsource, hextracted⟩ := exists_extracted h hjobs
  have hkept : CachesKept s' t := by
    have hafter := CachesKept.after more s'
    exact ⟨fun collection => ht ▸ hafter.grown collection, fun hgood => ht ▸ hafter.good hgood⟩
  have htext : (workflow (.text text)).Says t record := by
    show (ofText text.toList).Says t record
    unfold ofText
    rw [hsource]
    exact hextracted.says_ofDocument hkept
  exact Says.bind htext fun said => .pure _

/-- The law at a workflow with a use of an action: after a lookup of tags that fails, it is
extracted again in a session without answers. -/
theorem build_replays_offline :
    ∃ out s',
      (Operation.extractWorkflow (.text buildText)).run.perform buildSession = (.ok out, s') ∧
      ¬ out.Lacks "jobs" ∧ ∃ said,
        (Operation.extractWorkflow (.text buildText)).run.perform
            { store := (s'.after [.tags (.text "own/repo")]).store } =
          (.ok out,
            Session.printed said { store := (s'.after [.tags (.text "own/repo")]).store }) := by
  obtain ⟨out, s', hrun, hjobs, -⟩ := exists_build
  exact ⟨out, s', hrun, hjobs, extraction_replays_offline hrun hjobs [.tags (.text "own/repo")] rfl⟩

end Extraction

end WorkflowAudit
