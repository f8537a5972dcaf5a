import Mathlib.Logic.Relation
import WorkflowAudit.Operation
import WorkflowAudit.Proofs.Attempts
import WorkflowAudit.Proofs.WrittenValues

/-! # Either client

The newest release of an action can be asked for by either client.  They send different tokens and
print different things, and only one of them moves its tokens on; in all else a lookup of the one is
that of the other, through every refusal, every wait and every failure on the way, as long as each
wait can be said: the auditor says how long it will wait, and an integer may be too long for that.

The two lookups are run side by side, from sessions that agree in everything the outcome can depend
on (`Session.SameDealings`).  That is kept by each attempt, whichever client makes it, and an
induction over the attempts carries it through the lookup (`Runs.alongside`).  The law for both
kinds of waits is `clients_interchangeable_unless_long_wait`.
-/
namespace WorkflowAudit

/-- Two sessions are the same but for the access tokens, what was printed, and the authorizations
that went with the requests. -/
structure Session.SameDealings (s t : Session) : Prop where
  store : s.store = t.store
  answers : s.answers = t.answers
  now : s.now = t.now
  credential : s.credential = t.credential
  source : s.source = t.source
  files : s.files = t.files
  waiting : s.waiting = t.waiting
  addresses : s.log.requests.map (·.1) = t.log.requests.map (·.1)
  waits : s.log.waits = t.log.waits
  inserts : s.log.inserts = t.log.inserts

namespace Session.SameDealings

variable {s t : Session}

theorem refl (s : Session) : SameDealings s s := ⟨rfl, rfl, rfl, rfl, rfl, rfl, rfl, rfl, rfl, rfl⟩

theorem symm (h : SameDealings s t) : SameDealings t s :=
  ⟨h.store.symm, h.answers.symm, h.now.symm, h.credential.symm, h.source.symm, h.files.symm,
    h.waiting.symm, h.addresses.symm, h.waits.symm, h.inserts.symm⟩

theorem printed (h : SameDealings s t) (text text' : List Char) :
    SameDealings (s.printed text) (t.printed text') :=
  { h with }

theorem asked (h : SameDealings s t) (path authorization authorization' : String) :
    SameDealings (s.asked path authorization) (t.asked path authorization') where
  __ := h
  addresses := by simp [Session.asked, h.addresses]

theorem sent (h : SameDealings s t) (client client' : Client) (path : String) :
    SameDealings (Release.sent client path s) (Release.sent client' path t) :=
  { h.asked path _ _ with }

theorem leaving (h : SameDealings s t) (left : List (String × List Answer)) :
    SameDealings (s.leaving left) (t.leaving left) :=
  { h with answers := rfl }

theorem waited (h : SameDealings s t) (seconds : Value) :
    SameDealings (s.waited seconds) (t.waited seconds) where
  __ := h
  waits := congrArg (· ++ [seconds]) h.waits

theorem inserted (h : SameDealings s t) (collection : String) (document : Value) :
    SameDealings (s.inserted collection document) (t.inserted collection document) where
  __ := h
  store := congrArg (·.insert collection document) h.store
  inserts := congrArg (· ++ [(collection, document)]) h.inserts

end Session.SameDealings

namespace Release

open Audit Session Relation

/-! ## Waits that can be said -/

/-- The answer that comes next for the limit asks for a wait. -/
def AsksWait (s : Session) (seconds : Value) : Prop :=
  ∃ answer left, takeAnswer? limitPath s.answers = some (answer, left) ∧
    pause (told answer) s.now = .ok (some seconds)

/-- A lookup comes to a wait that is too long to be said: some attempts are repeated, and at the
next refusal the limit asks for that wait. -/
def LongWait (query : Query) (s : Session) : Prop :=
  ∃ t u seconds, ReflTransGen query.Repeats s t ∧ query.Refused t u ∧ AsksWait u seconds ∧
    seconds.isShowable = false

section LongWait

variable {query : Query} {s t : Session}

theorem LongWait.of_repeats (hrepeats : query.Repeats s t) (h : LongWait query t) :
    LongWait query s := by
  obtain ⟨u, v, seconds, hreaches, hrest⟩ := h
  exact ⟨u, v, seconds, .head hrepeats hreaches, hrest⟩

theorem isShowable_of_not_longWait (h : ¬ LongWait query s) {seconds : Value}
    (hrefused : query.Refused s t) (hasks : AsksWait t seconds) : seconds.isShowable = true := by
  by_contra hlong
  exact h ⟨s, t, seconds, .refl, hrefused, hasks, Bool.not_eq_true _ ▸ hlong⟩

end LongWait

/-- A wait that cannot be said is for an integer, and is not to be counted either. -/
theorem problem?_of_not_isShowable {found : Value × Value} {now seconds : Value}
    (hpause : pause found now = .ok (some seconds)) (h : seconds.isShowable = false) :
    Waiting.problem? .asleep seconds = some .overflow := by
  obtain ⟨below, -, hpause⟩ := bind_ok.mp hpause
  cases below with
  | false => cases pure_ok.mp hpause
  | true =>
    obtain ⟨whole, -, hpause⟩ := bind_ok.mp hpause
    obtain ⟨delayed, hdelay, hpause⟩ := bind_ok.mp hpause
    obtain rfl := Option.some.inj (pure_ok.mp hpause)
    obtain ⟨n, rfl⟩ : ∃ n, delayed = .int n := by
      unfold delay at hdelay
      split at hdelay
      · exact ⟨_, (pure_ok.mp hdelay).symm⟩
      · split at hdelay
        · obtain rfl := pure_ok.mp hdelay
          cases h
        · cases hdelay
      · cases hdelay
    have hlong : Text.isLong n = true := by simpa [Value.isShowable] using h
    have hgreat : 10 ^ 20 ≤ n.natAbs :=
      Nat.le_trans (Nat.pow_le_pow_right (by decide) (by decide)) (Text.isLong_iff.mp hlong)
    have huncounted : Waiting.isCountable (.int n) = false := by
      rw [Waiting.isCountable, Bool.and_eq_false_iff, decide_eq_false_iff_not,
        decide_eq_false_iff_not, Waiting.longest]
      omega
    rw [Waiting.problem?, huncounted]
    rfl

/-! ## The steps of a lookup -/

section Steps

variable {client client' : Client} {s t u : Session} {action : Value}

theorem heed_alongside {wanted : Option Value}
    (hshown : ∀ seconds ∈ wanted, seconds.isShowable = true)
    (h : SameDealings s t) :
    ((heed client wanted).perform s).1 = ((heed client' wanted).perform t).1 ∧
      SameDealings ((heed client wanted).perform s).2 ((heed client' wanted).perform t).2 := by
  cases wanted with
  | none => exact ⟨rfl, h⟩
  | some seconds =>
    have hsame : ∀ client, obstacle? client t.waiting seconds = t.waiting.problem? seconds :=
      fun client => if_neg (by simp [hshown seconds rfl])
    rw [perform_heed, perform_heed, h.waiting, hsame, hsame]
    cases t.waiting.problem? seconds with
    | some failure => exact ⟨rfl, h.printed _ _⟩
    | none => exact ⟨rfl, (h.printed _ _).waited seconds⟩

theorem awaitLimit_alongside (hshown : ∀ seconds, AsksWait s seconds → seconds.isShowable = true)
    (h : SameDealings s t) :
    ((awaitLimit client).perform s).1 = ((awaitLimit client').perform t).1 ∧
      SameDealings ((awaitLimit client).perform s).2 ((awaitLimit client').perform t).2 := by
  have hasked : SameDealings (limitAsked client s) (limitAsked client' t) := h.asked limitPath _ _
  cases htaken : takeAnswer? limitPath s.answers with
  | none =>
    rw [perform_awaitLimit_of_none htaken, perform_awaitLimit_of_none (h.answers ▸ htaken)]
    exact ⟨rfl, hasked⟩
  | some taken =>
    obtain ⟨answer, left⟩ := taken
    rw [perform_awaitLimit_of_answer htaken, perform_awaitLimit_of_answer (h.answers ▸ htaken),
      perform_check_bind, perform_check_bind, ← h.now]
    cases hpause : pause (told answer) s.now with
    | error failure => exact ⟨rfl, hasked.leaving left⟩
    | ok wanted =>
      refine heed_alongside (fun seconds hseconds => ?_) (hasked.leaving left)
      obtain rfl := Option.mem_def.mp hseconds
      exact hshown seconds ⟨answer, left, htaken, hpause⟩

theorem answered_alongside {answer : Answer} (h : (releaseQuery client action).Answered s answer u)
    (hs : SameDealings s t) :
    ∃ v, (releaseQuery client' action).Answered t answer v ∧ SameDealings u v := by
  obtain @⟨name, left, hmissing, hkey, htaken⟩ := h
  refine ⟨_, .intro (hs.store ▸ hmissing) hkey (hs.answers ▸ htaken), ?_⟩
  exact ((hs.printed _ _).sent client client' _).leaving left

theorem refused_alongside (h : (releaseQuery client action).Refused s u) (hs : SameDealings s t) :
    ∃ v, (releaseQuery client' action).Refused t v ∧ SameDealings u v := by
  obtain ⟨hanswered, hstatus⟩ := h
  obtain ⟨v, hv, huv⟩ := answered_alongside hanswered hs
  exact ⟨_, .intro hv hstatus, huv.printed _ _⟩

/-- The auditor fails at a wait that it cannot say. -/
theorem awaitLimit_of_long {seconds : Value} (h : AsksWait s seconds)
    (hlong : seconds.isShowable = false) :
    ((awaitLimit .auditor).perform s).1 = .error .longInteger := by
  obtain ⟨answer, left, htaken, hpause⟩ := h
  have hobstacle : ∀ waiting, obstacle? .auditor waiting seconds = some .longInteger :=
    fun waiting => if_pos ⟨rfl, hlong⟩
  rw [perform_awaitLimit_of_answer htaken, hpause, perform_check_bind]
  simp only [perform_heed, hobstacle]

/-- If waits are really made, then the extractor fails there too, but for another cause. -/
theorem awaitLimit_alongside_of_long {seconds : Value} (h : AsksWait s seconds)
    (hlong : seconds.isShowable = false) (hasleep : s.waiting = .asleep) (hs : SameDealings s t) :
    ((awaitLimit .extractor).perform t).1 = .error .overflow ∧
      SameDealings ((awaitLimit .auditor).perform s).2 ((awaitLimit .extractor).perform t).2 := by
  obtain ⟨answer, left, htaken, hpause⟩ := h
  have hlimit : SameDealings ((limitAsked .auditor s).leaving left)
      ((limitAsked .extractor t).leaving left) := (hs.asked limitPath _ _).leaving left
  have hsaid : obstacle? .auditor ((limitAsked .auditor s).leaving left).waiting seconds =
      some .longInteger := if_pos ⟨rfl, hlong⟩
  have hmade : obstacle? .extractor ((limitAsked .extractor t).leaving left).waiting seconds =
      some .overflow := by
    rw [obstacle?, if_neg (fun h => (by cases h.1)), ← hlimit.waiting]
    show s.waiting.problem? seconds = _
    rw [hasleep, problem?_of_not_isShowable hpause hlong]
  rw [perform_awaitLimit_of_answer htaken, perform_awaitLimit_of_answer (hs.answers ▸ htaken),
    ← hs.now, hpause, perform_check_bind, perform_check_bind]
  simp only [perform_heed, hsaid, hmade]
  exact ⟨trivial, hlimit.printed _ _⟩

theorem repeats_alongside (h : (releaseQuery .auditor action).Repeats s u) (hs : SameDealings s t) :
    ∃ v, (releaseQuery .extractor action).Repeats t v ∧ SameDealings u v := by
  obtain @⟨asked, hrefused, hwait⟩ := h
  obtain ⟨asked', hrefused', hasked⟩ := refused_alongside hrefused hs
  -- the wait was made, so it could be said
  have hshown : ∀ seconds, AsksWait asked seconds → seconds.isShowable = true := by
    intro seconds hasks
    by_contra hlong
    have hfailed := awaitLimit_of_long hasks (Bool.not_eq_true _ ▸ hlong)
    rw [show (awaitLimit .auditor).perform asked = _ from hwait] at hfailed
    cases hfailed
  obtain ⟨houtcome, hafter⟩ := @awaitLimit_alongside .auditor .extractor _ _ hshown hasked
  rw [show (awaitLimit .auditor).perform asked = _ from hwait] at houtcome hafter
  exact ⟨((awaitLimit .extractor).perform asked').2, .intro hrefused' (Prod.ext houtcome.symm rfl),
    hafter⟩

theorem announcement_of_not_isShowable (client : Client) (h : action.isShowable = false) :
    announcement client action = .error .longInteger := by
  unfold announcement
  rw [Value.shown_of_not_isShowable h]
  cases client <;> rfl

theorem isOk_announcement (client : Client) (action : Value) :
    (announcement client action).isOk = action.isShowable := by
  cases h : action.isShowable with
  | false =>
    rw [announcement_of_not_isShowable client h]
    rfl
  | true =>
    unfold announcement
    rw [Value.shown_of_isShowable h]
    cases client <;> rfl

theorem settles_alongside {outcome : Except Failure Value}
    (h : (releaseQuery client action).Settles s outcome u)
    (hshown : ∀ asked seconds, (releaseQuery client action).Refused s asked →
      AsksWait asked seconds → seconds.isShowable = true) (hs : SameDealings s t) :
    ∃ v, (releaseQuery client' action).Settles t outcome v ∧ SameDealings u v := by
  have hsaid : (releaseQuery client' action).announcement.isOk =
      (releaseQuery client action).announcement.isOk :=
    (isOk_announcement client' action).trans (isOk_announcement client action).symm
  cases h with
  | @unsaid failure hunsaid =>
    have hlong : action.isShowable = false := by
      rw [← isOk_announcement client action, show announcement client action = _ from hunsaid]
      rfl
    have hsame := (announcement_of_not_isShowable client hlong).symm.trans hunsaid
    refine ⟨t, .unsaid ?_, hs⟩
    rw [← Except.error.inj hsame]
    exact announcement_of_not_isShowable client' hlong
  | known hfound hok => exact ⟨_, .known (hs.store ▸ hfound) (hsaid.trans hok), hs.printed _ _⟩
  | unnamed hmissing hname hok =>
    exact ⟨_, .unnamed (hs.store ▸ hmissing) hname (hsaid.trans hok), hs.printed _ _⟩
  | unanswered hmissing hkey hnone =>
    refine ⟨_, .unanswered (hs.store ▸ hmissing) hkey (hs.answers ▸ hnone), ?_⟩
    exact (hs.printed _ _).sent client client' _
  | spoiled hanswered hstatus hsettle =>
    obtain ⟨v, hv, huv⟩ := answered_alongside hanswered hs
    exact ⟨v, .spoiled hv hstatus hsettle, huv⟩
  | given hanswered hstatus hsettle =>
    obtain ⟨v, hv, huv⟩ := answered_alongside hanswered hs
    exact ⟨_, .given hv hstatus hsettle, huv.inserted _ _⟩
  | @stopped asked _ failure hrefused hwait =>
    obtain ⟨asked', hrefused', hasked⟩ := refused_alongside hrefused hs
    obtain ⟨houtcome, hafter⟩ := @awaitLimit_alongside client client' _ _
      (fun seconds => hshown asked seconds hrefused) hasked
    rw [show (awaitLimit client).perform asked = _ from hwait] at houtcome hafter
    exact ⟨((awaitLimit client').perform asked').2, .stopped hrefused' (Prod.ext houtcome.symm rfl),
      hafter⟩

/-- Where each wait can be said, a lookup of the auditor is one of the extractor: a refusal is the
same for both, and so is what is made of an answer. -/
theorem runs_alongside {outcome : Except Failure Value}
    (h : (releaseQuery .auditor action).Runs s outcome u)
    (hshort : ¬ LongWait (releaseQuery .auditor action) s) (hs : SameDealings s t) :
    ∃ v, (releaseQuery .extractor action).Runs t outcome v ∧ SameDealings u v := by
  induction h generalizing t with
  | settled h =>
    obtain ⟨v, hv, huv⟩ := settles_alongside h (fun _ _ => isShowable_of_not_longWait hshort) hs
    exact ⟨v, .settled hv, huv⟩
  | retried h _ ih =>
    obtain ⟨t', hrepeats, ht'⟩ := repeats_alongside h hs
    obtain ⟨v, hv, huv⟩ := ih (mt (.of_repeats h) hshort) ht'
    exact ⟨v, .retried hrepeats hv, huv⟩

theorem waiting_of_refused {query : Query} (h : query.Refused s u) : u.waiting = s.waiting := by
  obtain ⟨⟨-, -, -⟩, -⟩ := h
  rfl

theorem waiting_of_repeats {query : Query} (h : query.Repeats s u) : u.waiting = s.waiting := by
  obtain ⟨hrefused, hwait⟩ := h
  exact (asksLimit_of_awaitLimit hwait).waiting.trans (waiting_of_refused hrefused)

/-- Attempts that are repeated come before all the others, for both clients. -/
theorem reaches_alongside (h : ReflTransGen (releaseQuery .auditor action).Repeats s u)
    (hs : SameDealings s t) :
    ∃ v, ReflTransGen (releaseQuery .extractor action).Repeats t v ∧ SameDealings u v := by
  induction h with
  | refl => exact ⟨t, .refl, hs⟩
  | tail _ hstep ih =>
    obtain ⟨v, hreaches, hv⟩ := ih
    obtain ⟨v', hrepeats, hv'⟩ := repeats_alongside hstep hv
    exact ⟨v', hreaches.tail hrepeats, hv'⟩

theorem perform_run_of_reaches {query : Query} (h : ReflTransGen query.Repeats s u) :
    query.run.perform s = query.run.perform u ∧ u.waiting = s.waiting := by
  induction h with
  | refl => exact ⟨rfl, rfl⟩
  | tail _ hstep ih =>
    exact ⟨ih.1.trans hstep.perform_run, (waiting_of_repeats hstep).trans ih.2⟩

theorem perform_run_of_stopped {query : Query} {failure : Failure} (h : query.Refused s u)
    (hwait : ((awaitLimit query.client).perform u).1 = .error failure) :
    query.run.perform s = (.error failure, ((awaitLimit query.client).perform u).2) :=
  Query.Runs.perform_run (.settled (.stopped h (Prod.ext hwait rfl)))

end Steps

/-- A lookup that comes to a wait that cannot be said: the auditor fails there.  If waits are really
made, then so does the extractor, which has done the same up to there. -/
theorem lookups_of_longWait {action : Value} {s : Session}
    (h : LongWait (releaseQuery .auditor action) s) :
    ((latest .auditor action).perform s).1 = .error .longInteger ∧
      (s.waiting = .asleep → ((latest .extractor action).perform s).1 = .error .overflow ∧
        SameDealings ((latest .extractor action).perform s).2
          ((latest .auditor action).perform s).2) := by
  obtain ⟨t, u, seconds, hreaches, hrefused, hasks, hlong⟩ := h
  obtain ⟨hrun, hwaiting⟩ := perform_run_of_reaches hreaches
  have hauditor := hrun.trans (perform_run_of_stopped hrefused (awaitLimit_of_long hasks hlong))
  rw [latest_eq, latest_eq, hauditor]
  refine ⟨rfl, fun hasleep => ?_⟩
  obtain ⟨t', hreaches', ht⟩ := reaches_alongside hreaches (.refl s)
  obtain ⟨u', hrefused', hu⟩ := @refused_alongside .auditor .extractor _ _ _ _ hrefused ht
  have hsleeps : u.waiting = .asleep := (waiting_of_refused hrefused).trans (hwaiting.trans hasleep)
  obtain ⟨houtcome, hafter⟩ := awaitLimit_alongside_of_long hasks hlong hsleeps hu
  rw [(perform_run_of_reaches hreaches').1.trans (perform_run_of_stopped hrefused' houtcome)]
  exact ⟨rfl, hafter.symm⟩

end Release

open Release in
/-- **Either client can look up a release, unless it has to wait for a number of seconds that is too
long to be said.**  From one session, and for any value that is asked for, the lookup of the
extractor and that of the auditor give the same release or fail with the same cause.  They ask the
service for the same addresses in the same order, wait for the same times and put in the same
documents, and leave the same store, the same answers and the same files.  They differ in the access
tokens, in the authorizations of the requests and in what is printed, and in nothing else.

But where the limit asks for a wait that is too long to be said, the auditor fails to say it; and
the extractor, if it really waits, fails to make it. -/
theorem clients_interchangeable_unless_long_wait (action : Value) (s : Session) :
    (¬ LongWait (releaseQuery .auditor action) s →
      ((Operation.release .extractor action).run.perform s).1 =
          ((Operation.release .auditor action).run.perform s).1 ∧
        Session.SameDealings ((Operation.release .extractor action).run.perform s).2
          ((Operation.release .auditor action).run.perform s).2) ∧
    (LongWait (releaseQuery .auditor action) s →
      ((Operation.release .auditor action).run.perform s).1 = .error .longInteger ∧
      (s.waiting = .asleep →
        ((Operation.release .extractor action).run.perform s).1 = .error .overflow ∧
        Session.SameDealings ((Operation.release .extractor action).run.perform s).2
          ((Operation.release .auditor action).run.perform s).2)) := by
  refine ⟨fun hshort => ?_, lookups_of_longWait⟩
  show ((latest .extractor action).perform s).1 = ((latest .auditor action).perform s).1 ∧
    Session.SameDealings ((latest .extractor action).perform s).2
      ((latest .auditor action).perform s).2
  rw [latest_eq, latest_eq]
  obtain ⟨v, hruns, hv⟩ := runs_alongside (Query.runs_run _ s) hshort (.refl s)
  rw [hruns.perform_run]
  exact ⟨rfl, hv.symm⟩

namespace Release

open Audit Session

/-! ### A reset far in the past -/

/-- A limit that is used up, with the time of its reset. -/
def usedUpLimit (reset : Int) : Value :=
  .record [("resources", .record [("core", .record
    [("remaining", .int (-1)), ("reset", .int reset)])])]

/-- A session in which a release is refused and such a limit is told. -/
def usedUpSession (reset : Int) : Session :=
  { answers := [("/repos/own/act/releases/latest", [⟨403, "limit"⟩]),
      (limitPath, [⟨200, String.ofList (Json.encoded (usedUpLimit reset))⟩])]
    now := .int 100 }

theorem told_usedUpLimit {reset : Int} (h : Text.isLong reset = false) :
    told ⟨200, String.ofList (Json.encoded (usedUpLimit reset))⟩ = (.int (-1), .int reset) := by
  have hone : Text.isLong (-1) = false := by decide
  have hshown : (usedUpLimit reset).isShowable = true := by
    simp [usedUpLimit, Value.isShowable, h, hone]
  have hread : Json.read (Json.encoded (usedUpLimit reset)) = .ok (usedUpLimit reset) :=
    Json.read_encoded (by simp [usedUpLimit]) rfl hshown
  unfold told limitOf
  rw [String.toList_ofList, hread]
  rfl

/-- A reset that can be told may ask for a wait that cannot be said. -/
theorem longWait_usedUpSession {reset : Int} (h : Text.isLong reset = false)
    (hlong : Text.isLong (reset - 100 + 10) = true) :
    LongWait (releaseQuery .auditor (.text "own/act")) (usedUpSession reset) := by
  have hanswered : (releaseQuery .auditor (.text "own/act")).Answered (usedUpSession reset)
      ⟨403, "limit"⟩ _ := .intro rfl rfl rfl
  refine ⟨_, _, .int (reset - 100 + 10), .refl, .intro hanswered (by decide),
    ⟨_, _, rfl, ?_⟩, ?_⟩
  · rw [told_usedUpLimit h]
    rfl
  · rw [Value.isShowable, hlong]
    rfl

/-- The clients can be told apart by a wait that is too long to be said: the extractor fails to make
it, and the auditor to say it. -/
theorem long_wait_tells_clients_apart :
    ((Operation.release .extractor (.text "own/act")).run.perform
        (usedUpSession (1 - Text.leastLong))).1 = .error .overflow ∧
      ((Operation.release .auditor (.text "own/act")).run.perform
        (usedUpSession (1 - Text.leastLong))).1 = .error .longInteger := by
  have hpositive : 0 < 10 ^ Text.digitLimit := Nat.pow_pos (by decide)
  have hshort : Text.isLong (1 - Text.leastLong) = false := by
    rw [Text.isLong_eq_false_iff, Text.leastLong_eq_cast]
    generalize 10 ^ Text.digitLimit = n at hpositive ⊢
    omega
  have hlong : Text.isLong (1 - Text.leastLong - 100 + 10) = true := by
    rw [Text.isLong_iff, Text.leastLong_eq_cast]
    generalize 10 ^ Text.digitLimit = n at hpositive ⊢
    omega
  obtain ⟨hauditor, hextractor⟩ := lookups_of_longWait (longWait_usedUpSession hshort hlong)
  exact ⟨(hextractor rfl).1, hauditor⟩

end Release

end WorkflowAudit
