import WorkflowAudit.Release
import WorkflowAudit.Proofs.Runs

/-! # Runs side by side

Two tasks go *alongside* each other when they come to the same outcome from any two sessions in a
given relation, and leave sessions in that relation again (`Audit.Alongside`).

Here the relation is that two sessions differ in their logs only.  A log is written and never read,
so a task goes alongside itself; this module says so of the lookup of tags
(`Release.alongside_tags`), refusals and waits included.
-/
namespace WorkflowAudit

namespace Audit

variable {α β : Type}

/-- Two tasks come to the same outcome from related sessions, and leave related sessions. -/
def Alongside (R : Session → Session → Prop) (task task' : Audit α) : Prop :=
  ∀ s t, R s t → (task.perform s).1 = (task'.perform t).1 ∧ R (task.perform s).2 (task'.perform t).2

namespace Alongside

variable {R : Session → Session → Prop}

theorem pure (a : α) : Alongside R (Pure.pure a : Audit α) (Pure.pure a) :=
  fun _ _ h => ⟨rfl, h⟩

theorem throw (failure : Failure) :
    Alongside R (MonadExcept.throw failure : Audit α) (MonadExcept.throw failure) :=
  fun _ _ h => ⟨rfl, h⟩

theorem check (result : Except Failure α) :
    Alongside R (Audit.check result) (Audit.check result) := by
  intro s t h
  rw [perform_check, perform_check]
  exact ⟨rfl, h⟩

theorem bind {task task' : Audit α} {next next' : α → Audit β} (h : Alongside R task task')
    (hnext : ∀ a, Alongside R (next a) (next' a)) :
    Alongside R (task >>= next) (task' >>= next') := by
  intro s t hst
  obtain ⟨houtcome, hafter⟩ := h s t hst
  rw [perform_bind, perform_bind]
  rcases hrun : task.perform s with ⟨outcome, s₁⟩
  rcases hrun' : task'.perform t with ⟨outcome', t₁⟩
  rw [hrun, hrun'] at houtcome hafter
  obtain rfl : outcome = outcome' := houtcome
  cases outcome with
  | error failure => exact ⟨rfl, hafter⟩
  | ok a => exact hnext a s₁ t₁ hafter

/-- Tasks that look at their sessions first go on with what they have seen. -/
theorem get_bind {next next' : Session → Audit β}
    (hnext : ∀ s t, R s t → Alongside R (next s) (next' t)) :
    Alongside R (MonadState.get >>= next) (MonadState.get >>= next') := by
  intro s t hst
  rw [perform_bind, perform_bind]
  exact hnext s t hst s t hst

end Alongside

end Audit

/-! ## Sessions that differ in their logs -/

/-- Two sessions are the same but for what they have logged. -/
def Session.SameButLog (s t : Session) : Prop :=
  ∃ log, t = { s with log := log }

theorem Session.sameButLog_printed (text : List Char) (s : Session) :
    SameButLog s (s.printed text) :=
  ⟨_, rfl⟩

namespace Audit

open Session

theorem alongside_say (line : List Char) : Alongside SameButLog (say line) (say line) := by
  rintro s t ⟨log, rfl⟩
  exact ⟨rfl, _, rfl⟩

theorem alongside_findOne (collection name : String) (value : Value) :
    Alongside SameButLog (findOne collection name value) (findOne collection name value) := by
  rintro s t ⟨log, rfl⟩
  exact ⟨rfl, _, rfl⟩

theorem alongside_insert (collection : String) (document : Value) :
    Alongside SameButLog (insert collection document) (insert collection document) := by
  rintro s t ⟨log, rfl⟩
  exact ⟨rfl, _, rfl⟩

theorem alongside_nextToken : Alongside SameButLog nextToken nextToken := by
  rintro s t ⟨log, rfl⟩
  exact ⟨rfl, _, rfl⟩

theorem alongside_request (path authorization : String) :
    Alongside SameButLog (request path authorization) (request path authorization) := by
  rintro s t ⟨log, rfl⟩
  rw [perform_request, perform_request]
  cases takeAnswer? path s.answers with
  | none => exact ⟨rfl, _, rfl⟩
  | some taken => exact ⟨rfl, _, rfl⟩

theorem alongside_wait (seconds : Value) : Alongside SameButLog (wait seconds) (wait seconds) := by
  refine .get_bind fun s t ⟨log, h⟩ => ?_
  rw [h]
  dsimp only
  cases s.waiting.problem? seconds with
  | some failure => exact .throw _
  | none =>
    rintro s t ⟨log, rfl⟩
    exact ⟨rfl, _, rfl⟩

end Audit

/-! ## Lookups -/

namespace Release

open Audit Session

theorem alongside_credential : Alongside SameButLog credential credential := by
  refine .get_bind fun s t ⟨log, h⟩ => ?_
  rw [h]
  exact .pure _

theorem alongside_limit (client : Client) : Alongside SameButLog (limit client) (limit client) := by
  unfold limit
  extract_lets ask
  have hask : ∀ token, Alongside SameButLog (ask token) (ask token) := by
    intro token
    refine (alongside_request _ _).bind fun answer => ?_
    split
    · exact .pure _
    · exact .pure _
  cases client with
  | extractor => exact hask _
  | auditor => exact alongside_credential.bind hask

theorem alongside_announceWait (client : Client) (seconds : Value) :
    Alongside SameButLog (announceWait client seconds) (announceWait client seconds) := by
  cases client with
  | extractor => exact .pure ()
  | auditor => exact (Alongside.check _).bind fun _ => alongside_say _

theorem alongside_awaitLimit (client : Client) :
    Alongside SameButLog (awaitLimit client) (awaitLimit client) := by
  unfold awaitLimit
  refine (alongside_limit client).bind fun (remaining, reset) => ?_
  refine (Alongside.check _).bind fun exhausted => ?_
  split
  · refine .get_bind fun s t ⟨log, h⟩ => ?_
    rw [h]
    refine (Alongside.check _).bind fun now => ?_
    refine (Alongside.check _).bind fun seconds => ?_
    exact (alongside_announceWait client seconds).bind fun _ => alongside_wait seconds
  · exact .pure ()

theorem alongside_tagsWithin (repository : Value) (attempts : Nat) :
    Alongside SameButLog (tagsWithin repository attempts) (tagsWithin repository attempts) := by
  induction attempts with
  | zero => exact .throw _
  | succ attempts ih =>
    unfold tagsWithin
    refine (Alongside.check _).bind fun shown => ?_
    refine (alongside_say _).bind fun _ => ?_
    refine (alongside_findOne _ _ _).bind fun found => ?_
    cases found with
    | some document => exact .check _
    | none =>
      refine (Alongside.check _).bind fun name => ?_
      refine alongside_nextToken.bind fun token => ?_
      refine (alongside_request _ _).bind fun answer => ?_
      split
      · refine (Alongside.check _).bind fun tags => ?_
        exact (alongside_insert _ _).bind fun _ => .pure tags
      · refine (alongside_say _).bind fun _ => ?_
        exact (alongside_awaitLimit .extractor).bind fun _ => ih

/-- A lookup of tags does not depend on what was logged before it. -/
theorem alongside_tags (repository : Value) :
    Alongside SameButLog (tags repository) (tags repository) := by
  refine .get_bind fun s t ⟨log, h⟩ => ?_
  have hleft : answersFor s tagsPath repository = answersFor t tagsPath repository := by
    rw [h]
    cases repository <;> rfl
  rw [hleft]
  exact alongside_tagsWithin repository _

end Release

end WorkflowAudit
