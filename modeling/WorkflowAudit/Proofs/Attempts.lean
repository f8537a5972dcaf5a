import WorkflowAudit.Proofs.Changes
import WorkflowAudit.Proofs.Limits

/-! # Lookups, attempt by attempt

The newest release of an action and the tags of a repository are looked up in the same way: in the
store, or else from the service, again and again as long as it refuses.  `Release.Query` has what
the two differ in, and `latest_eq` and `tags_eq` say that both are such queries.

One attempt settles a query (`Query.Settles`), or it is refused, the limit is awaited, and the query
is repeated (`Query.Repeats`).  A query runs through refusals to the attempt that settles it
(`Query.Runs`): the attempts are bounded by the answers that are scripted, and since a refusal uses
one of them up, the bound is never reached (`Query.runs_run`).  What a whole lookup does is then an
induction over its run.
-/
namespace WorkflowAudit

namespace Release

open Audit Session

/-! ## Asking -/

/-- The token that a client sends next. -/
def tokenOf (client : Client) (s : Session) : String :=
  match client with
  | .extractor => s.tokens.next
  | .auditor => s.credential.getD noCredential

/-- The tokens after a client has sent one. -/
def tokensAfter (client : Client) (s : Session) : Tokens :=
  match client with
  | .extractor => s.tokens.rotated
  | .auditor => s.tokens

/-- The session in which a client has asked for a release or for tags. -/
def sent (client : Client) (path : String) (s : Session) : Session :=
  { s.asked path (authorization (tokenOf client s)) with tokens := tokensAfter client s }

/-- Asks for a release or for tags. -/
def ask (client : Client) (path : String) : Audit Answer := do
  let token ← tokenFor client
  Audit.request path (authorization token)

theorem perform_ask (client : Client) (path : String) (s : Session) :
    (ask client path).perform s =
      match takeAnswer? path s.answers with
      | some (answer, left) => (.ok answer, (sent client path s).leaving left)
      | none => (.error .noAnswer, sent client path s) := by
  have htoken : (tokenFor client).perform s =
      (.ok (tokenOf client s), { s with tokens := tokensAfter client s }) := by
    cases client <;> rfl
  unfold ask
  rw [perform_bind, htoken]
  exact perform_request path _ _

/-! ## Queries -/

/-- Whether an address is that of a release or of tags, and not that of the limit. -/
def isLookup (address : String) : Bool :=
  (service ++ "/repos/").toList.isPrefixOf address.toList

theorem isLookup_limitPath : isLookup (service ++ limitPath) = false := by decide +kernel

/-- A question that the store or the service answers. -/
structure Query where
  client : Client
  /-- What is said at each attempt; a text can always be said. -/
  announcement : Except Failure (List Char)
  /-- The collection in which known answers are kept, and the field that has the key. -/
  collection : String
  field : String
  key : Value
  isOk_announcement : ∀ name, key = .text name → announcement.isOk = true
  path : String → String
  path_lookup : ∀ name, isLookup (service ++ path name) = true
  /-- What a known document answers. -/
  fromStore : Value → Except Failure Value
  /-- The document to be kept of a value that the service gave, and what it answers. -/
  keep : Value → Except Failure (Value × Value)
  /-- What is printed when the service has refused. -/
  complaint : Answer → List Char

theorem isLookup_releasePath (name : String) : isLookup (service ++ releasePath name) = true := by
  simp [isLookup, releasePath]

theorem isLookup_tagsPath (name : String) : isLookup (service ++ tagsPath name) = true := by
  simp [isLookup, tagsPath]

/-- The question for the newest release of an action. -/
def releaseQuery (client : Client) (action : Value) : Query where
  client := client
  announcement := announcement client action
  collection := releaseCache
  field := "name"
  key := action
  isOk_announcement _ h := by
    rw [h]
    cases client <;> rfl
  path := releasePath
  path_lookup := isLookup_releasePath
  fromStore := pure
  keep release := do
    let document ← named release action
    return (document, document)
  complaint answer :=
    match client with
    | .extractor =>
      "Waiting for rate limit... ".toList ++ Text.integerText answer.status ++ ", ".toList ++
        Text.quotedBytes (Text.encodeUtf8 answer.body.toList) ++ ['\n']
    | .auditor => []

/-- The question for the tags of a repository. -/
def tagsQuery (repository : Value) : Query where
  client := .extractor
  announcement := do return "Getting tags for ".toList ++ (← repository.shown)
  collection := tagsCache
  field := "repo"
  key := repository
  isOk_announcement _ h := by
    rw [h]
    rfl
  path := tagsPath
  path_lookup := isLookup_tagsPath
  fromStore document := document.itemNamed "tags"
  keep tags := pure (.record [("repo", repository), ("tags", tags)], tags)
  complaint answer :=
    "Error getting tags ".toList ++ Text.integerText answer.status ++
      ' ' :: answer.body.toList ++ ['\n']

namespace Query

theorem path_ne (query : Query) (name : String) : query.path name ≠ limitPath := by
  intro h
  have hlookup := query.path_lookup name
  rw [h, isLookup_limitPath] at hlookup
  cases hlookup

/-- The document and the answer that a query gets from an answer of the service. -/
def settle (query : Query) (answer : Answer) : Except Failure (Value × Value) := do
  query.keep (← Json.read answer.body.toList)

/-- What is made of an answer of the service: it is kept, or the query is asked again. -/
def respond (query : Query) (answer : Answer) (again : Audit Value) : Audit Value :=
  if answer.status = 200 then do
    let found ← Audit.check (query.settle answer)
    Audit.insert query.collection found.1
    return found.2
  else do
    Audit.print (query.complaint answer)
    awaitLimit query.client
    again

/-- The answer to a query, in at most `attempts` requests. -/
def within (query : Query) : (attempts : Nat) → Audit Value
  | 0 => throw .noAnswer
  | attempts + 1 => do
    Audit.say (← Audit.check query.announcement)
    match ← Audit.findOne query.collection query.field query.key with
    | some document => Audit.check (query.fromStore document)
    | none =>
      let name ← Audit.check (addressPart query.key)
      let answer ← ask query.client (query.path name)
      query.respond answer (query.within attempts)

/-- The answer to a query. -/
def run (query : Query) : Audit Value := do
  query.within (answersFor (← get) query.path query.key + 1)

end Query

theorem latestWithin_eq (client : Client) (action : Value) (attempts : Nat) :
    latestWithin client action attempts = (releaseQuery client action).within attempts := by
  induction attempts with
  | zero => rfl
  | succ attempts ih =>
    unfold latestWithin Query.within
    refine bind_congr fun line => bind_congr fun _ => bind_congr fun found => ?_
    cases found with
    | some release => rfl
    | none =>
      refine bind_congr fun name => ?_
      show _ = ask client (releasePath name) >>= _
      unfold ask
      rw [bind_assoc]
      refine bind_congr fun token => bind_congr fun answer => ?_
      unfold Query.respond
      by_cases hstatus : answer.status = 200
      · rw [if_pos hstatus, if_pos hstatus]
        show _ = Audit.check (Json.read answer.body.toList >>= fun release =>
          named release action >>= fun document => pure (document, document)) >>= _
        rw [check_bind, bind_assoc]
        refine bind_congr fun release => ?_
        rw [check_bind, bind_assoc]
        rfl
      · rw [if_neg hstatus, if_neg hstatus, ← ih]
        cases client with
        | extractor => rfl
        -- the auditor does not report a refusal, and as a query it prints the empty text
        | auditor =>
          show pure () >>= _ = print [] >>= _
          rw [print_nil]
          rfl

theorem tagsWithin_eq (repository : Value) (attempts : Nat) :
    tagsWithin repository attempts = (tagsQuery repository).within attempts := by
  induction attempts with
  | zero => rfl
  | succ attempts ih =>
    unfold tagsWithin Query.within
    have hsaid : Audit.check (tagsQuery repository).announcement =
        Audit.check repository.shown >>= fun shown =>
          pure ("Getting tags for ".toList ++ shown) := by
      show Audit.check (repository.shown >>= fun shown => pure (_ ++ shown)) = _
      rw [check_bind]
      rfl
    rw [hsaid, bind_assoc]
    refine bind_congr fun line => ?_
    rw [pure_bind]
    refine bind_congr fun _ => bind_congr fun found => ?_
    cases found with
    | some document => rfl
    | none =>
      refine bind_congr fun name => ?_
      show _ = ask .extractor (tagsPath name) >>= _
      unfold ask
      rw [bind_assoc]
      refine bind_congr fun token => bind_congr fun answer => ?_
      unfold Query.respond
      by_cases hstatus : answer.status = 200
      · rw [if_pos hstatus, if_pos hstatus]
        show _ = Audit.check (Json.read answer.body.toList >>= fun tags =>
          pure (Value.record [("repo", repository), ("tags", tags)], tags)) >>= _
        rw [check_bind, bind_assoc]
        rfl
      · rw [if_neg hstatus, if_neg hstatus, ← ih]
        rfl

/-- A release is looked up by its query. -/
theorem latest_eq (client : Client) (action : Value) :
    latest client action = (releaseQuery client action).run :=
  bind_congr fun _ => latestWithin_eq client action _

/-- Tags are looked up by their query. -/
theorem tags_eq (repository : Value) : tags repository = (tagsQuery repository).run :=
  bind_congr fun _ => tagsWithin_eq repository _

/-! ## One attempt -/

namespace Query

/-- The session in which an attempt has been announced. -/
def announced (query : Query) (s : Session) : Session :=
  s.printed (query.announcement.toOption.elim [] (· ++ ['\n']))

/-- The store does not know the answer to a query, and the service gives one. -/
inductive Answered (query : Query) (s : Session) (answer : Answer) : Session → Prop where
  | intro {name : String} {left : List (String × List Answer)}
    (hmissing : s.store.findOne? query.collection query.field query.key = none)
    (hkey : query.key = .text name)
    (htaken : takeAnswer? (query.path name) s.answers = some (answer, left)) :
    Answered query s answer ((sent query.client (query.path name) (query.announced s)).leaving left)

/-- The service is asked for the answer to a query, and refuses. -/
inductive Refused (query : Query) (s : Session) : Session → Prop where
  | intro {answer : Answer} {t : Session} (h : query.Answered s answer t)
    (hstatus : answer.status ≠ 200) : Refused query s (t.printed (query.complaint answer))

/-- An attempt that settles a query: it has an outcome, and there is no further attempt. -/
inductive Settles (query : Query) (s : Session) : Except Failure Value → Session → Prop where
  | unsaid {failure : Failure} (h : query.announcement = .error failure) :
    Settles query s (.error failure) s
  | known {document : Value}
    (h : s.store.findOne? query.collection query.field query.key = some document)
    (hsaid : query.announcement.isOk = true) :
    Settles query s (query.fromStore document) (query.announced s)
  | unnamed {failure : Failure}
    (hmissing : s.store.findOne? query.collection query.field query.key = none)
    (h : addressPart query.key = .error failure) (hsaid : query.announcement.isOk = true) :
    Settles query s (.error failure) (query.announced s)
  | unanswered {name : String}
    (hmissing : s.store.findOne? query.collection query.field query.key = none)
    (hkey : query.key = .text name) (h : takeAnswer? (query.path name) s.answers = none) :
    Settles query s (.error .noAnswer) (sent query.client (query.path name) (query.announced s))
  | spoiled {answer : Answer} {t : Session} {failure : Failure} (h : query.Answered s answer t)
    (hstatus : answer.status = 200) (hsettle : query.settle answer = .error failure) :
    Settles query s (.error failure) t
  | given {answer : Answer} {t : Session} {found : Value × Value} (h : query.Answered s answer t)
    (hstatus : answer.status = 200) (hsettle : query.settle answer = .ok found) :
    Settles query s (.ok found.2) (t.inserted query.collection found.1)
  | stopped {t u : Session} {failure : Failure} (h : query.Refused s t)
    (hwait : (awaitLimit query.client).perform t = (.error failure, u)) :
    Settles query s (.error failure) u

/-- An attempt that the service refuses, after which the limit was awaited and the query is asked
again. -/
inductive Repeats (query : Query) (s u : Session) : Prop where
  | intro {t : Session} (h : query.Refused s t)
    (hwait : (awaitLimit query.client).perform t = (.ok (), u))

variable {query : Query} {s t u : Session} {outcome : Except Failure Value}

/-- An attempt that can be announced looks into the store, and asks the service if nothing is
known. -/
theorem perform_within_succ (hsaid : query.announcement.isOk = true) (attempts : Nat)
    (s : Session) :
    (query.within (attempts + 1)).perform s =
      match s.store.findOne? query.collection query.field query.key with
      | some document => (query.fromStore document, query.announced s)
      | none =>
        (Audit.check (addressPart query.key) >>= fun name =>
          ask query.client (query.path name) >>= fun answer =>
            query.respond answer (query.within attempts)).perform (query.announced s) := by
  generalize hagain : query.within attempts = again
  unfold within announced
  cases hline : query.announcement with
  | error failure =>
    rw [hline] at hsaid
    cases hsaid
  | ok line =>
  rw [hagain, perform_check_bind]
  dsimp only
  rw [perform_bind, perform_say]
  dsimp only
  rw [perform_bind, perform_findOne, store_printed]
  cases s.store.findOne? query.collection query.field query.key with
  | some document => exact perform_check _ _
  | none => rfl

/-- An attempt that has an answer of the service is what is made of the answer. -/
theorem perform_within_of_answered {answer : Answer} (h : query.Answered s answer t)
    (attempts : Nat) :
    (query.within (attempts + 1)).perform s =
      (query.respond answer (query.within attempts)).perform t := by
  obtain @⟨name, left, hmissing, hkey, htaken⟩ := h
  have hname : addressPart query.key = .ok name := hkey ▸ rfl
  have hanswers : (query.announced s).answers = s.answers := rfl
  rw [perform_within_succ (query.isOk_announcement name hkey), hmissing, hname]
  dsimp only
  rw [perform_check_bind]
  dsimp only
  rw [perform_bind, perform_ask, hanswers, htaken]

theorem perform_respond_of_refused {answer : Answer} (hstatus : answer.status ≠ 200)
    (again : Audit Value)
    (t : Session) : (query.respond answer again).perform t =
      (awaitLimit query.client >>= fun _ => again).perform
        (t.printed (query.complaint answer)) := by
  unfold respond
  rw [if_neg hstatus, perform_bind, perform_print]

theorem Repeats.perform_within (h : query.Repeats s u) (attempts : Nat) :
    (query.within (attempts + 1)).perform s = (query.within attempts).perform u := by
  obtain ⟨hrefused, hwait⟩ := h
  obtain ⟨hanswered, hstatus⟩ := hrefused
  rw [perform_within_of_answered hanswered, perform_respond_of_refused hstatus, perform_bind, hwait]

/-- An attempt that settles a query does so however many more there could be. -/
theorem Settles.perform_within (h : query.Settles s outcome t) (attempts : Nat) :
    (query.within (attempts + 1)).perform s = (outcome, t) := by
  cases h with
  | unsaid hunsaid =>
    unfold within
    rw [hunsaid]
    rfl
  | known hfound hsaid => rw [perform_within_succ hsaid, hfound]
  | unnamed hmissing hname hsaid =>
    rw [perform_within_succ hsaid, hmissing, hname]
    rfl
  | @unanswered name hmissing hkey hnone =>
    have hname : addressPart query.key = .ok name := hkey ▸ rfl
    have hanswers : (query.announced s).answers = s.answers := rfl
    rw [perform_within_succ (query.isOk_announcement name hkey), hmissing, hname]
    dsimp only
    rw [perform_check_bind]
    dsimp only
    rw [perform_bind, perform_ask, hanswers, hnone]
  | spoiled hanswered hstatus hsettle | given hanswered hstatus hsettle =>
    rw [perform_within_of_answered hanswered]
    unfold respond
    rw [if_pos hstatus, hsettle]
    rfl
  | stopped hrefused hwait =>
    obtain ⟨hanswered, hstatus⟩ := hrefused
    rw [perform_within_of_answered hanswered, perform_respond_of_refused hstatus,
      perform_bind, hwait]

/-- An attempt with an answer settles the query or is repeated. -/
theorem respond_cases {answer : Answer} (h : query.Answered s answer t) :
    (∃ outcome u, query.Settles s outcome u) ∨ ∃ u, query.Repeats s u := by
  by_cases hstatus : answer.status = 200
  · cases hsettle : query.settle answer with
    | error failure => exact .inl ⟨_, _, .spoiled h hstatus hsettle⟩
    | ok found => exact .inl ⟨_, _, .given h hstatus hsettle⟩
  · have hrefused : query.Refused s _ := .intro h hstatus
    rcases hwait : (awaitLimit query.client).perform (t.printed (query.complaint answer)) with
      ⟨waited, u⟩
    cases waited with
    | error failure => exact .inl ⟨_, _, .stopped hrefused hwait⟩
    | ok _ => exact .inr ⟨u, .intro hrefused hwait⟩

/-- An attempt settles the query or is repeated. -/
theorem attempt_cases (query : Query) (s : Session) :
    (∃ outcome t, query.Settles s outcome t) ∨ ∃ t, query.Repeats s t := by
  cases hline : query.announcement with
  | error failure => exact .inl ⟨_, _, .unsaid hline⟩
  | ok line =>
  have hsaid : query.announcement.isOk = true := hline ▸ rfl
  cases hfound : s.store.findOne? query.collection query.field query.key with
  | some document => exact .inl ⟨_, _, .known hfound hsaid⟩
  | none =>
    cases hname : addressPart query.key with
    | error failure => exact .inl ⟨_, _, .unnamed hfound hname hsaid⟩
    | ok name =>
      have hkey := addressPart_ok hname
      cases htaken : takeAnswer? (query.path name) s.answers with
      | some taken => exact respond_cases (.intro hfound hkey htaken)
      | none => exact .inl ⟨_, _, .unanswered hfound hkey htaken⟩

/-! ## All attempts -/

/-- The attempts of a query, from the first to the one that settles it. -/
inductive Runs (query : Query) : Session → Except Failure Value → Session → Prop where
  | settled {s t : Session} {outcome : Except Failure Value} (h : query.Settles s outcome t) :
    Runs query s outcome t
  | retried {s t u : Session} {outcome : Except Failure Value} (h : query.Repeats s t)
    (hrest : Runs query t outcome u) : Runs query s outcome u

/-- A refusal uses up one of the answers for the query. -/
theorem Repeats.answersFor (h : query.Repeats s u) :
    Release.answersFor s query.path query.key = Release.answersFor u query.path query.key + 1 := by
  obtain ⟨hrefused, hwait⟩ := h
  obtain ⟨hanswered, -⟩ := hrefused
  obtain @⟨name, left, -, hkey, htaken⟩ := hanswered
  have hleft : u.answersLeft (query.path name) = ((left.lookup (query.path name)).getD []).length :=
    (asksLimit_of_awaitLimit hwait).answersLeft (query.path_ne name)
  rw [hkey]
  show ((s.answers.lookup (query.path name)).getD []).length = u.answersLeft (query.path name) + 1
  rw [hleft, (lookup_takeAnswer? htaken).1, List.length_cons]

/-- A query runs through refusals to an attempt that settles it, since the answers for it run
out. -/
theorem exists_runs (query : Query) (s : Session) : ∃ outcome t, query.Runs s outcome t := by
  generalize hcount : answersFor s query.path query.key = count
  induction count using Nat.strongRecOn generalizing s with
  | ind count ih =>
    rcases query.attempt_cases s with ⟨outcome, t, hsettles⟩ | ⟨t, hrepeats⟩
    · exact ⟨outcome, t, .settled hsettles⟩
    · have hleft := hrepeats.answersFor
      obtain ⟨outcome, u, hruns⟩ := ih (answersFor t query.path query.key) (by omega) t rfl
      exact ⟨outcome, u, .retried hrepeats hruns⟩

/-- More attempts than answers are enough to settle a query. -/
theorem Runs.perform_within (h : query.Runs s outcome t) {attempts : Nat}
    (henough : answersFor s query.path query.key < attempts) :
    (query.within attempts).perform s = (outcome, t) := by
  induction h generalizing attempts with
  | settled h =>
    cases attempts with
    | zero => cases henough
    | succ attempts => exact h.perform_within attempts
  | retried h _ ih =>
    cases attempts with
    | zero => cases henough
    | succ attempts =>
      -- the answers left go down with the attempts left, so there are still more attempts
      have hleft := h.answersFor
      rw [h.perform_within]
      exact ih (by omega)

theorem Runs.perform_run (h : query.Runs s outcome t) : query.run.perform s = (outcome, t) := by
  unfold run
  rw [perform_bind, perform_get]
  exact h.perform_within (Nat.lt_succ_self _)

theorem runs_run (query : Query) (s : Session) :
    query.Runs s (query.run.perform s).1 (query.run.perform s).2 := by
  obtain ⟨outcome, t, hruns⟩ := query.exists_runs s
  rw [hruns.perform_run]
  exact hruns

/-- A query that is repeated goes on as one that begins anew. -/
theorem Repeats.perform_run (h : query.Repeats s u) :
    query.run.perform s = query.run.perform u := by
  unfold run
  rw [perform_bind, perform_bind, perform_get, perform_get]
  dsimp only
  rw [h.answersFor, h.perform_within]

end Query

end Release

end WorkflowAudit
