import WorkflowAudit.Proofs.Runs
import WorkflowAudit.Proofs.Showable
import WorkflowAudit.Release

/-! # Waiting for the limit

A client that was refused asks the service how many requests it has left and when the number is set
back, and waits for that time if the number is below zero.  `awaitLimit_eq` takes this apart: the
answer tells a limit (`Release.told`), the limit asks for a wait or for none (`Release.pause`), and
the wait is made (`Release.heed`) unless something stands against it (`Release.obstacle?`): a wait
must not be negative or longer than can be counted.  The two clients differ only in the token they
ask with and in what they say; but one of them says how long it will wait, and there are numbers too
long to be said.

Whether a client comes back from this depends on the limit, the clock and the way of waiting alone
(`awaitLimit_ok_iff`). Of what it does on the way, later modules need to know that the limit is
asked for once, and that the store and the tokens stay as they are (`asksLimit_awaitLimit`).
-/
namespace WorkflowAudit

/-- The session in which a wait has been noted. -/
def Session.waited (seconds : Value) (s : Session) : Session :=
  { s with log := { s.log with waits := s.log.waits ++ [seconds] } }

/-- The session in which only some answers are left. -/
def Session.leaving (left : List (String × List Answer)) (s : Session) : Session :=
  { s with answers := left }

/-- A wait that is really made is for a number that can be counted, and no wait is negative. -/
theorem Waiting.problem?_eq_none {waiting : Waiting} {seconds : Value} :
    waiting.problem? seconds = none ↔
      (waiting = .asleep → isUndefined seconds = false ∧ isCountable seconds = true) ∧
        isNegative seconds = false := by
  have hasleep : (Waiting.asleep == .asleep) = true := rfl
  have hnoted : (Waiting.noted == .asleep) = false := rfl
  cases waiting with
  | noted => simp [problem?, hnoted]
  | asleep =>
    rw [problem?, hasleep]
    cases isUndefined seconds <;> cases isCountable seconds <;> simp

namespace Audit

@[simp] theorem perform_print (text : List Char) (s : Session) :
    (print text).perform s = (.ok (), s.printed text) := rfl

theorem print_nil : print [] = pure () := by
  funext s
  show (Except.ok (), s.printed []) = (Except.ok (), s)
  rw [Session.printed_nil]

theorem perform_wait (seconds : Value) (s : Session) :
    (wait seconds).perform s =
      match s.waiting.problem? seconds with
      | some failure => (.error failure, s)
      | none => (.ok (), s.waited seconds) := by
  unfold wait
  rw [perform_bind, perform_get]
  dsimp only
  cases s.waiting.problem? seconds <;> rfl

end Audit

namespace Release

open Audit Session

/-! ## What the answer tells, and what it asks for -/

/-- The token with which a client asks for the limit.  That of the extractor is always the same
text, which is none of its access tokens. -/
def limitToken (client : Client) (s : Session) : String :=
  match client with
  | .extractor => "f\x7bTOKEN\x7d"
  | .auditor => s.credential.getD noCredential

theorem limitToken_congr {s t : Session} (client : Client) (h : t.credential = s.credential) :
    limitToken client t = limitToken client s := by
  cases client with
  | extractor => rfl
  | auditor => exact congrArg (·.getD noCredential) h

/-- The session in which a client has asked for the limit. -/
def limitAsked (client : Client) (s : Session) : Session :=
  s.asked limitPath (authorization (limitToken client s))

/-- The requests left and the time of the reset that an answer tells, or what is taken for them. -/
def told (answer : Answer) : Value × Value :=
  match limitOf answer.body.toList with
  | .ok found => found
  | .error _ => unknownLimit

/-- The seconds of waiting that a limit asks for at a time, if it asks for any. -/
def pause (limit : Value × Value) (now : Value) : Except Failure (Option Value) := do
  if ← isBelowZero limit.1 then return some (← delay limit.2 (← wholeSeconds now))
  else return none

/-- What a client prints before it waits; of a number too long to be said, nothing. -/
def notice (client : Client) (seconds : Value) : List Char :=
  match client with
  | .extractor => []
  | .auditor =>
    if seconds.isShowable then
      "Github API limit reached, waiting ".toList ++ seconds.displayed ++
        " seconds".toList ++ ['\n']
    else []

/-- What stands against a wait of a client: that it cannot be said, or that it cannot be made. -/
def obstacle? (client : Client) (waiting : Waiting) (seconds : Value) : Option Failure :=
  if client = .auditor ∧ seconds.isShowable = false then some .longInteger
  else waiting.problem? seconds

theorem obstacle?_eq_none {client : Client} {waiting : Waiting} {seconds : Value} :
    obstacle? client waiting seconds = none ↔
      (client = .auditor → seconds.isShowable = true) ∧ waiting.problem? seconds = none := by
  unfold obstacle?
  split <;> simp_all

/-- Makes the wait that a limit asks for. -/
def heed (client : Client) : Option Value → Audit Unit
  | none => pure ()
  | some seconds => do
    announceWait client seconds
    Audit.wait seconds

theorem perform_credential (s : Session) :
    credential.perform s = (.ok (s.credential.getD noCredential), s) := rfl

theorem perform_limit (client : Client) (s : Session) :
    (limit client).perform s =
      match takeAnswer? limitPath s.answers with
      | some (answer, left) => (.ok (told answer), (limitAsked client s).leaving left)
      | none => (.error .noAnswer, limitAsked client s) := by
  have hask : (limit client).perform s =
      (request limitPath (authorization (limitToken client s)) >>= fun answer =>
        pure (told answer)).perform s := by
    unfold limit
    extract_lets ask
    have htold : ∀ token, ask token =
        request limitPath (authorization token) >>= fun answer => pure (told answer) := by
      intro token
      refine bind_congr fun answer => ?_
      unfold told
      cases limitOf answer.body.toList <;> rfl
    cases client with
    | extractor => exact congrArg (perform · s) (htold _)
    | auditor =>
      show (credential >>= ask).perform s = _
      rw [perform_bind, perform_credential]
      exact congrArg (perform · s) (htold _)
  rw [hask, perform_bind, perform_request]
  cases takeAnswer? limitPath s.answers with
  | none => rfl
  | some taken => rfl

/-- A client asks for the limit, reckons the wait, and makes it. -/
theorem awaitLimit_eq (client : Client) :
    awaitLimit client = (do
      let found ← limit client
      let session ← get
      let wait ← Audit.check (pause found session.now)
      heed client wait) := by
  unfold awaitLimit
  refine bind_congr fun found => ?_
  obtain ⟨remaining, reset⟩ := found
  dsimp only
  unfold pause
  cases hbelow : isBelowZero remaining with
  | error failure => rfl
  | ok below =>
    cases below with
    | false => rfl
    | true =>
      have hpassed : (Audit.check (.ok true) : Audit Bool) = pure true := rfl
      rw [hpassed, pure_bind, if_pos rfl]
      refine bind_congr fun session => ?_
      show _ = Audit.check (wholeSeconds session.now >>= fun now =>
        delay reset now >>= fun seconds => pure (some seconds)) >>= heed client
      rw [check_bind, bind_assoc]
      refine bind_congr fun now => ?_
      rw [check_bind, bind_assoc]
      refine bind_congr fun seconds => ?_
      rw [check_pure, pure_bind]
      rfl

/-! ## When the wait is made -/

section Awaiting

variable {client : Client} {s : Session} {answer : Answer} {left : List (String × List Answer)}
  {seconds now : Value} {found : Value × Value} {wanted : Option Value}

theorem perform_announceWait (client : Client) (seconds : Value) (s : Session) :
    (announceWait client seconds).perform s =
      if client = .auditor ∧ seconds.isShowable = false then (.error .longInteger, s)
      else (.ok (), s.printed (notice client seconds)) := by
  cases client with
  | extractor => exact congrArg (Prod.mk _) (printed_nil s).symm
  | auditor =>
    unfold announceWait notice
    cases hshown : seconds.isShowable with
    | false =>
      dsimp only
      rw [Value.shown_of_not_isShowable hshown]
      rfl
    | true =>
      dsimp only
      rw [Value.shown_of_isShowable hshown]
      rfl

/-- A wait is made unless something stands against it. -/
theorem perform_heed (client : Client) (seconds : Value) (s : Session) :
    (heed client (some seconds)).perform s =
      match obstacle? client s.waiting seconds with
      | some failure => (.error failure, s.printed (notice client seconds))
      | none => (.ok (), (s.printed (notice client seconds)).waited seconds) := by
  unfold heed obstacle?
  rw [perform_bind, perform_announceWait]
  by_cases hlong : client = .auditor ∧ seconds.isShowable = false
  · have hnothing : notice client seconds = [] := by
      rw [hlong.1, notice, hlong.2]
      rfl
    rw [if_pos hlong, if_pos hlong, hnothing, printed_nil]
  · rw [if_neg hlong, if_neg hlong]
    exact perform_wait _ _

theorem perform_awaitLimit_of_none (h : takeAnswer? limitPath s.answers = none) :
    (awaitLimit client).perform s = (.error .noAnswer, limitAsked client s) := by
  rw [awaitLimit_eq, perform_bind, perform_limit, h]

theorem perform_awaitLimit_of_answer (h : takeAnswer? limitPath s.answers = some (answer, left)) :
    (awaitLimit client).perform s =
      (Audit.check (pause (told answer) s.now) >>= heed client).perform
      ((limitAsked client s).leaving left) := by
  rw [awaitLimit_eq, perform_bind, perform_limit, h]
  rfl

/-- A wait with nothing against it is made, and noted once. -/
theorem perform_awaitLimit_of_pause (h : takeAnswer? limitPath s.answers = some (answer, left))
    (hpause : pause (told answer) s.now = .ok wanted)
    (hwait : ∀ seconds ∈ wanted, obstacle? client s.waiting seconds = none) :
    ((awaitLimit client).perform s).1 = .ok () ∧
      ((awaitLimit client).perform s).2.log.waits = s.log.waits ++ wanted.toList := by
  rw [perform_awaitLimit_of_answer h, hpause, perform_check_bind]
  cases wanted with
  | none => exact ⟨rfl, (List.append_nil _).symm⟩
  | some seconds =>
    have hnone : obstacle? client ((limitAsked client s).leaving left).waiting seconds = none :=
      hwait seconds rfl
    simp only [perform_heed, hnone]
    exact ⟨trivial, rfl⟩

/-- A client can act on a limit at a time: what remains is a number, and if that is below zero then
the wait for the reset can be reckoned, and nothing stands against it. -/
inductive Manageable (client : Client) (waiting : Waiting) (now : Value) :
    Value × Value → Prop where
  | spare {remaining reset : Value} (h : isBelowZero remaining = .ok false) :
    Manageable client waiting now (remaining, reset)
  | overdrawn {remaining reset seconds : Value} {whole : Int} (h : isBelowZero remaining = .ok true)
    (hwhole : wholeSeconds now = .ok whole) (hdelay : delay reset whole = .ok seconds)
    (hseconds : obstacle? client waiting seconds = none) :
    Manageable client waiting now (remaining, reset)

theorem manageable_iff {waiting : Waiting} : Manageable client waiting now found ↔
    ∃ wanted, pause found now = .ok wanted ∧
      ∀ seconds ∈ wanted, obstacle? client waiting seconds = none := by
  constructor
  · intro h
    cases h with
    | spare h => exact ⟨none, bind_ok.mpr ⟨false, h, rfl⟩, fun _ hmem => (by cases hmem)⟩
    | @overdrawn remaining reset seconds whole h hwhole hdelay hseconds =>
      refine ⟨some seconds, bind_ok.mpr ⟨true, h, ?_⟩, fun _ hmem => ?_⟩
      · exact bind_ok.mpr ⟨whole, hwhole, bind_ok.mpr ⟨seconds, hdelay, rfl⟩⟩
      · obtain rfl := Option.mem_some.mp hmem
        exact hseconds
  · rintro ⟨wanted, hpause, hwait⟩
    obtain ⟨below, hbelow, hpause⟩ := bind_ok.mp hpause
    cases below with
    | false => exact .spare hbelow
    | true =>
      obtain ⟨whole, hwhole, hpause⟩ := bind_ok.mp hpause
      obtain ⟨seconds, hdelay, hpause⟩ := bind_ok.mp hpause
      obtain rfl := pure_ok.mp hpause
      exact .overdrawn hbelow hwhole hdelay (hwait seconds rfl)

/-- A client that has an answer comes back from its wait exactly when it can act on it. -/
theorem awaitLimit_ok_iff (h : takeAnswer? limitPath s.answers = some (answer, left)) :
    ((awaitLimit client).perform s).1 = .ok () ↔
      Manageable client s.waiting s.now (told answer) := by
  rw [manageable_iff]
  constructor
  · intro hok
    rw [perform_awaitLimit_of_answer h, perform_check_bind] at hok
    cases hpause : pause (told answer) s.now with
    | error failure =>
      rw [hpause] at hok
      cases hok
    | ok wanted =>
      rw [hpause] at hok
      refine ⟨wanted, rfl, fun seconds hmem => ?_⟩
      obtain rfl := Option.mem_def.mp hmem
      cases hobstacle : obstacle? client s.waiting seconds with
      | none => rfl
      | some failure =>
        have hsome : obstacle? client ((limitAsked client s).leaving left).waiting seconds =
            some failure := hobstacle
        simp only [perform_heed, hsome] at hok
        cases hok
  · rintro ⟨wanted, hpause, hwait⟩
    exact (perform_awaitLimit_of_pause h hpause hwait).1

end Awaiting

/-! ## What is left of a session that has asked for the limit -/

/-- Between two sessions the limit was asked for once, and at most something was printed and waited
for. -/
structure AsksLimit (client : Client) (s t : Session) : Prop where
  requests : t.log.requests =
    s.log.requests ++ [(service ++ limitPath, authorization (limitToken client s))]
  store : t.store = s.store
  tokens : t.tokens = s.tokens
  credential : t.credential = s.credential
  answers : ∀ path, path ≠ limitPath → t.answers.lookup path = s.answers.lookup path
  waiting : t.waiting = s.waiting

theorem AsksLimit.answersLeft {client : Client} {s t : Session} (h : AsksLimit client s t)
    {path : String} (hpath : path ≠ limitPath) : t.answersLeft path = s.answersLeft path := by
  unfold Session.answersLeft
  rw [h.answers path hpath]

theorem asksLimit_limit (client : Client) (s : Session) :
    AsksLimit client s ((limit client).perform s).2 := by
  rw [perform_limit]
  cases htaken : takeAnswer? limitPath s.answers with
  | none => exact ⟨rfl, rfl, rfl, rfl, fun _ _ => rfl, rfl⟩
  | some taken =>
    obtain ⟨answer, left⟩ := taken
    exact ⟨rfl, rfl, rfl, rfl, (lookup_takeAnswer? htaken).2, rfl⟩

theorem AsksLimit.heed {client : Client} {s t : Session} (h : AsksLimit client s t)
    (wanted : Option Value) : AsksLimit client s ((heed client wanted).perform t).2 := by
  cases wanted with
  | none => exact h
  | some seconds =>
    rw [perform_heed]
    cases obstacle? client t.waiting seconds with
    | some failure => exact ⟨h.requests, h.store, h.tokens, h.credential, h.answers, h.waiting⟩
    | none => exact ⟨h.requests, h.store, h.tokens, h.credential, h.answers, h.waiting⟩

theorem asksLimit_awaitLimit (client : Client) (s : Session) :
    AsksLimit client s ((awaitLimit client).perform s).2 := by
  have hasked := asksLimit_limit client s
  rw [awaitLimit_eq, perform_bind]
  rcases hrun : (limit client).perform s with ⟨outcome, t⟩
  rw [hrun] at hasked
  cases outcome with
  | error failure => exact hasked
  | ok found =>
    simp only [perform_bind, perform_get, perform_check]
    cases pause found t.now with
    | error failure => exact hasked
    | ok wanted => exact hasked.heed wanted

theorem asksLimit_of_awaitLimit {client : Client} {s t : Session} {outcome : Except Failure Unit}
    (h : (awaitLimit client).perform s = (outcome, t)) : AsksLimit client s t := by
  have hasked := asksLimit_awaitLimit client s
  rw [h] at hasked
  exact hasked

end Release

end WorkflowAudit
