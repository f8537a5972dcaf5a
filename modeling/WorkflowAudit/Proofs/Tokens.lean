import Mathlib.Data.List.Rotate
import WorkflowAudit.Proofs.Attempts
import WorkflowAudit.Proofs.Caches
import WorkflowAudit.Proofs.ScriptFindings

/-! # Tokens

The extractor sends its access tokens in turn, and the auditor sends the credential as it is.  Which
token goes with which request is decided in the attempts of lookups, which may be refused and
repeated, and may fail; `Release.Exchange` has the requests of a whole lookup, and
`Query.Runs.exchange` says that every lookup is one.

Two laws follow from that by induction.  Over any row of operations the tokens are used one after
the other (`tokens_used_in_turn`): what one operation uses is a stretch of the turn, and the next
operation goes on where it has ended.  And a lookup that was refused asks for the limit with a token
of its own: `limit_asked_with_refused_token_iff` says when that is the token which was refused.
-/
namespace WorkflowAudit

/-! ## Turns -/

namespace Tokens

/-- The tokens after some uses. -/
def after (tokens : Tokens) (uses : Nat) : Tokens :=
  rotated^[uses] tokens

/-- The tokens of the next uses, in their order. -/
def inTurn (tokens : Tokens) : (uses : Nat) → List String
  | 0 => []
  | uses + 1 => tokens.next :: tokens.rotated.inTurn uses

theorem after_add (tokens : Tokens) (m n : Nat) :
    (tokens.after m).after n = tokens.after (m + n) := by
  unfold after
  rw [Nat.add_comm, Function.iterate_add_apply]

theorem inTurn_add (tokens : Tokens) (m n : Nat) :
    tokens.inTurn (m + n) = tokens.inTurn m ++ (tokens.after m).inTurn n := by
  induction m generalizing tokens with
  | zero => rw [Nat.zero_add]; rfl
  | succ m ih =>
    rw [Nat.succ_add]
    exact congrArg (tokens.next :: ·) (ih tokens.rotated)

theorem toList_after (tokens : Tokens) (uses : Nat) :
    (tokens.after uses).toList = tokens.toList.rotate uses := by
  induction uses generalizing tokens with
  | zero => exact (List.rotate_zero _).symm
  | succ uses ih =>
    calc (tokens.rotated.after uses).toList
        = (tokens.others ++ [tokens.next]).rotate uses := by rw [ih, toList_rotated]
      _ = tokens.toList.rotate (uses + 1) := (List.rotate_cons_succ ..).symm

theorem getElem?_inTurn (tokens : Tokens) {i uses : Nat} (h : i < uses) :
    (tokens.inTurn uses)[i]? = some (tokens.after i).next := by
  induction uses generalizing tokens i with
  | zero => cases h
  | succ uses ih =>
    cases i with
    | zero => rfl
    | succ i => exact ih tokens.rotated (Nat.lt_of_succ_lt_succ h)

/-- The token of a use, by its number. -/
theorem getElem?_inTurn_mod (tokens : Tokens) {i uses : Nat} (h : i < uses) :
    (tokens.inTurn uses)[i]? = tokens.toList[i % tokens.toList.length]? := by
  have hfirst : (tokens.toList.rotate i)[0]? = some (tokens.after i).next := by
    rw [← toList_after]
    rfl
  have hpos : 0 < tokens.toList.length := Nat.succ_pos _
  rw [getElem?_inTurn tokens h, ← hfirst, List.getElem?_rotate hpos, Nat.zero_add]

/-- The tokens of a credential, which bars separate. -/
def given (credential : Option String) : List String :=
  ((credential.getD noCredential).toList.splitOn '|').map String.ofList

theorem toList_ofCredential (credential : Option String) :
    (ofCredential credential).toList = given credential := by
  unfold given ofCredential
  rw [← Text.pieces_eq_splitOn]
  cases hpieces : (Text.pieces '|' (credential.getD noCredential).toList).map String.ofList with
  | nil => exact absurd (List.map_eq_nil_iff.mp hpieces) (Text.pieces_ne_nil _ _)
  | cons next others => rfl

end Tokens

/-- A session that begins with a credential, so that none of its tokens was used. -/
def Session.opened (credential : Option String) (s : Session) : Session :=
  { s with credential := credential, tokens := Tokens.ofCredential credential }

namespace Release

open Audit Session

/-! ## The requests of a lookup -/

/-- The requests that a client sends from a session in one lookup, and the tokens that are left:
there is none, or each but the last was refused, and after each refusal the limit is asked for. -/
inductive Exchange (client : Client) : Session → List (String × String) → Session → Prop where
  | silent {s t : Session} (htokens : t.tokens = s.tokens) : Exchange client s [] t
  | asked {s t : Session} {address : String} (haddress : isLookup address = true)
    (htokens : t.tokens = tokensAfter client s) :
    Exchange client s [(address, authorization (tokenOf client s))] t
  | refused {s t u : Session} {address : String} {more : List (String × String)}
    (haddress : isLookup address = true) (hcredential : t.credential = s.credential)
    (htokens : t.tokens = tokensAfter client s) (hmore : Exchange client t more u) :
    Exchange client s ((address, authorization (tokenOf client s)) ::
      (service ++ limitPath, authorization (limitToken client s)) :: more) u

/-- A request of a lookup was sent. -/
structure Sends (client : Client) (s t : Session) (address : String) : Prop where
  lookup : isLookup address = true
  requests : t.log.requests = s.log.requests ++ [(address, authorization (tokenOf client s))]
  tokens : t.tokens = tokensAfter client s
  credential : t.credential = s.credential

namespace Query

variable {query : Query} {s t u : Session} {outcome : Except Failure Value}

theorem Answered.sends {answer : Answer} (h : query.Answered s answer t) :
    ∃ address, Sends query.client s t address := by
  obtain @⟨name, left, -, -, -⟩ := h
  exact ⟨_, query.path_lookup name, rfl, rfl, rfl⟩

/-- A refusal sends a request of the lookup and one for the limit, whatever comes of the wait. -/
theorem Refused.exchange {waited : Except Failure Unit} (h : query.Refused s t)
    (hwait : (awaitLimit query.client).perform t = (waited, u)) :
    ∃ address, isLookup address = true ∧ u.credential = s.credential ∧
      u.tokens = tokensAfter query.client s ∧
      u.log.requests = s.log.requests ++ [(address, authorization (tokenOf query.client s)),
        (service ++ limitPath, authorization (limitToken query.client s))] := by
  obtain @⟨answer, t, hanswered, -⟩ := h
  obtain ⟨address, hsends⟩ := hanswered.sends
  have hlimit := asksLimit_of_awaitLimit hwait
  -- the credential is the same at both requests, and nothing else decides the token for the limit
  have htoken : limitToken query.client (t.printed (query.complaint answer)) =
      limitToken query.client s := limitToken_congr _ hsends.credential
  refine ⟨address, hsends.lookup, hlimit.credential.trans hsends.credential,
    hlimit.tokens.trans hsends.tokens, ?_⟩
  rw [hlimit.requests, htoken]
  show t.log.requests ++ _ = _
  rw [hsends.requests, List.append_assoc]
  rfl

theorem Settles.exchange (h : query.Settles s outcome t) :
    ∃ asked, t.log.requests = s.log.requests ++ asked ∧ Exchange query.client s asked t := by
  cases h with
  | known | unnamed | unsaid => exact ⟨[], (List.append_nil _).symm, .silent rfl⟩
  | unanswered => exact ⟨_, rfl, .asked (query.path_lookup _) rfl⟩
  | spoiled hanswered | given hanswered =>
    obtain ⟨address, hsends⟩ := hanswered.sends
    exact ⟨_, hsends.requests, .asked hsends.lookup hsends.tokens⟩
  | stopped hrefused hwait =>
    obtain ⟨address, haddress, hcredential, htokens, hrequests⟩ := hrefused.exchange hwait
    exact ⟨_, hrequests, .refused haddress hcredential htokens (.silent rfl)⟩

/-- The attempts of a lookup are an exchange. -/
theorem Runs.exchange (h : query.Runs s outcome t) :
    ∃ asked, t.log.requests = s.log.requests ++ asked ∧ Exchange query.client s asked t := by
  induction h with
  | settled h => exact h.exchange
  | retried h _ ih =>
    obtain ⟨hrefused, hwait⟩ := h
    obtain ⟨address, haddress, hcredential, htokens, hrequests⟩ := hrefused.exchange hwait
    obtain ⟨more, hmore, hexchange⟩ := ih
    refine ⟨_, ?_, .refused haddress hcredential htokens hexchange⟩
    rw [hmore, hrequests, List.append_assoc]
    rfl

end Query

/-- The requests that were sent between two sessions. -/
def requestsSince (s t : Session) : List (String × String) :=
  t.log.requests.drop s.log.requests.length

theorem requestsSince_eq {s t : Session} {asked : List (String × String)}
    (h : t.log.requests = s.log.requests ++ asked) : requestsSince s t = asked := by
  unfold requestsSince
  rw [h, List.drop_left]

/-! ## The token that asks for the limit -/

/-- The requests of a lookup alternate between what is looked up and the limit, and a request for
the limit has the authorization of the refused request before it exactly in the cases that are given
by the client and by what was refused. -/
structure Alternates (client : Client) (asked : List (String × String)) : Prop where
  lookup {i : Nat} {address sent : String} (h : asked[2 * i]? = some (address, sent)) :
    isLookup address = true
  limit {i : Nat} {address sent : String} (h : asked[2 * i + 1]? = some (address, sent)) :
    address = service ++ limitPath ∧ ∃ first refused, asked[2 * i]? = some (first, refused) ∧
      (sent = refused ↔ client = .auditor ∨ refused = authorization "f\x7bTOKEN\x7d")

variable {client : Client} {s t : Session} {asked : List (String × String)}

theorem authorization_limitToken (client : Client) (s : Session) :
    authorization (limitToken client s) = authorization (tokenOf client s) ↔
      client = .auditor ∨ authorization (tokenOf client s) = authorization "f\x7bTOKEN\x7d" := by
  cases client with
  | extractor => exact eq_comm.trans (by simp [limitToken])
  | auditor => exact iff_of_true rfl (.inl rfl)

theorem Exchange.alternates (h : Exchange client s asked t) : Alternates client asked := by
  induction h with
  | silent => exact ⟨fun h => (by cases h), fun h => (by cases h)⟩
  | asked haddress =>
    constructor
    · intro i address sent h
      cases i with
      | zero =>
        obtain ⟨rfl, -⟩ := Prod.mk.inj (Option.some.inj h)
        exact haddress
      | succ i => cases h
    · intro i address sent h
      cases i with
      | zero => cases h
      | succ i => cases h
  | @refused s _ _ first more haddress _ _ _ ih =>
    -- the pair at the front moves each of the others up by two
    constructor
    · intro i address sent h
      cases i with
      | zero =>
        obtain ⟨rfl, -⟩ := Prod.mk.inj (Option.some.inj h)
        exact haddress
      | succ i => exact ih.lookup h
    · intro i address sent h
      cases i with
      | zero =>
        obtain ⟨rfl, rfl⟩ := Prod.mk.inj (Option.some.inj h)
        exact ⟨rfl, _, _, rfl, authorization_limitToken client s⟩
      | succ i => exact ih.limit h

theorem alternates_run (query : Query) (s : Session) :
    Alternates query.client (requestsSince s (query.run.perform s).2) := by
  obtain ⟨asked, hasked, hexchange⟩ := (query.runs_run s).exchange
  rw [requestsSince_eq hasked]
  exact hexchange.alternates

/-- **The limit is asked for with the token that was refused, or not.**  In any session, let either
client look up a release, or the extractor tags, and let the service refuse as often as it does.
The requests alternate: after each one that is refused the limit is asked for, and then the lookup
is repeated.  The auditor asks for the limit with the token that was refused.  The extractor does so
only if that token happens to be the text that it sends for its limit in place of any token. -/
theorem limit_asked_with_refused_token_iff (s : Session) :
    (∀ client action,
      Alternates client (requestsSince s ((Operation.release client action).run.perform s).2)) ∧
    (∀ repository,
      Alternates .extractor (requestsSince s ((Operation.tags repository).run.perform s).2)) := by
  refine ⟨fun client action => ?_, fun repository => ?_⟩
  · show Alternates client (requestsSince s ((latest client action).perform s).2)
    rw [latest_eq]
    exact alternates_run (releaseQuery client action) s
  · show Alternates .extractor (requestsSince s ((tags repository).perform s).2)
    rw [tags_eq]
    exact alternates_run (tagsQuery repository) s

/-- The extractor has one token, which is refused, and asks for the limit with another text. -/
theorem limit_asked_without_token :
    ((Operation.release .extractor (.text "own/act")).run.perform
        (refusedOnce.opened (some "abc"))).2.log.requests =
      [(service ++ releasePath "own/act", "token abc"),
        (service ++ limitPath, "token f\x7bTOKEN\x7d"),
        (service ++ releasePath "own/act", "token abc")] := by
  decide +kernel

/-! ## The tokens of an operation -/

/-- The authorizations of the requests for releases and tags. -/
def lookups (requests : List (String × String)) : List String :=
  (requests.filter fun request => isLookup request.1).map (·.2)

theorem lookups_append (requests more : List (String × String)) :
    lookups (requests ++ more) = lookups requests ++ lookups more := by
  simp [lookups]

theorem lookups_cons {address : String} (h : isLookup address = true) (sent : String)
    (more : List (String × String)) : lookups ((address, sent) :: more) = sent :: lookups more := by
  simp [lookups, h]

theorem lookups_limit (sent : String) (more : List (String × String)) :
    lookups ((service ++ limitPath, sent) :: more) = lookups more := by
  simp [lookups, isLookup_limitPath]

end Release

/-- Some authorizations are those of the tokens in turn, and are used up between two sessions. -/
structure Session.Uses (used : List String) (s t : Session) : Prop where
  inTurn : used = (s.tokens.inTurn used.length).map Release.authorization
  tokens : t.tokens = s.tokens.after used.length

namespace Session.Uses

variable {used more : List String} {s t u : Session}

theorem none (h : t.tokens = s.tokens) : Uses [] s t := ⟨rfl, h⟩

theorem one (h : t.tokens = s.tokens.rotated) :
    Uses [Release.authorization s.tokens.next] s t := ⟨rfl, h⟩

theorem append (h : Uses used s t) (hmore : Uses more t u) : Uses (used ++ more) s u where
  inTurn := by
    rw [List.length_append, Tokens.inTurn_add, List.map_append, ← h.inTurn, ← h.tokens,
      ← hmore.inTurn]
  tokens := by
    rw [List.length_append, ← Tokens.after_add, ← h.tokens, hmore.tokens]

end Session.Uses

namespace Release

theorem Exchange.uses {s t : Session} {asked : List (String × String)}
    (h : Exchange .extractor s asked t) : Session.Uses (lookups asked) s t := by
  induction h with
  | silent htokens => exact .none htokens
  | asked haddress htokens =>
    rw [lookups_cons haddress]
    exact .one htokens
  | refused haddress _ htokens _ ih =>
    rw [lookups_cons haddress, lookups_limit]
    exact (Session.Uses.one htokens).append ih

theorem Exchange.tokens_eq {s t : Session} {asked : List (String × String)}
    (h : Exchange .auditor s asked t) : t.tokens = s.tokens := by
  induction h with
  | silent htokens => exact htokens
  | asked _ htokens =>
    exact htokens
  | refused _ _ htokens _ ih =>
    exact ih.trans htokens

end Release

/-! ## Operations -/

namespace Session

open Release

/-- Between two sessions the extractor was at work: the requests for releases and tags were sent
with its tokens in turn. -/
def TurnsKept (s t : Session) : Prop :=
  ∃ asked, t.log.requests = s.log.requests ++ asked ∧ Uses (lookups asked) s t

namespace TurnsKept

theorem of_requests {s t : Session} (hrequests : t.log.requests = s.log.requests)
    (htokens : t.tokens = s.tokens) : TurnsKept s t :=
  ⟨[], hrequests.trans (List.append_nil _).symm, .none htokens⟩

theorem passage : Passage TurnsKept where
  refl _ := of_requests rfl rfl
  trans := by
    rintro s t u ⟨asked, hasked, huses⟩ ⟨more, hmore, huses'⟩
    refine ⟨asked ++ more, ?_, ?_⟩
    · rw [hmore, hasked, List.append_assoc]
    · rw [lookups_append]
      exact huses.append huses'
  printed _ _ := of_requests rfl rfl

theorem of_asksLimit {s t : Session} (h : AsksLimit .extractor s t) : TurnsKept s t := by
  refine ⟨_, h.requests, ?_⟩
  rw [lookups_limit]
  exact .none h.tokens

theorem keeps_run {query : Query} (hclient : query.client = .extractor) :
    query.run.Keeps TurnsKept := by
  intro s
  obtain ⟨asked, hasked, hexchange⟩ := (query.runs_run s).exchange
  rw [hclient] at hexchange
  exact ⟨asked, hasked, hexchange.uses⟩

/-- The extractor uses its tokens in turn, whatever it does. -/
theorem extractor : Client.extractor.Keeps TurnsKept where
  __ := passage
  limit s := of_asksLimit (asksLimit_limit .extractor s)
  awaitLimit s := of_asksLimit (asksLimit_awaitLimit .extractor s)
  latest action := by
    rw [latest_eq]
    exact keeps_run rfl
  tags _ repository := by
    rw [tags_eq]
    exact keeps_run rfl
  stored _ _ _ := of_requests rfl rfl
  fetchTags h := (by cases h)
  written h := (by cases h)

end TurnsKept

/-- Between two sessions no token was used. -/
def TokensKept (s t : Session) : Prop :=
  t.tokens = s.tokens

namespace TokensKept

theorem passage : Passage TokensKept where
  refl _ := rfl
  trans h h' := Eq.trans h' h
  printed _ _ := rfl

theorem keeps_request (path authorization : String) :
    (Audit.request path authorization).Keeps TokensKept := by
  intro s
  rw [Audit.perform_request]
  cases takeAnswer? path s.answers <;> rfl

theorem keeps_limit (client : Client) : (Operation.limit client).run.Keeps TokensKept :=
  passage.bind (fun s => (asksLimit_limit client s).tokens) fun _ => passage.pure _

theorem keeps_awaitLimit (client : Client) : (Operation.awaitLimit client).run.Keeps TokensKept :=
  Operation.keeps_nothing passage fun s => (asksLimit_awaitLimit client s).tokens

/-- The auditor uses no token. -/
theorem auditor : Client.auditor.Keeps TokensKept where
  __ := passage
  limit s := (asksLimit_limit .auditor s).tokens
  awaitLimit s := (asksLimit_awaitLimit .auditor s).tokens
  latest action := by
    rw [latest_eq]
    intro s
    obtain ⟨asked, -, hexchange⟩ := ((releaseQuery .auditor action).runs_run s).exchange
    exact hexchange.tokens_eq
  tags h := (by cases h)
  stored h := (by cases h)
  fetchTags _ repository :=
    passage.bind (passage.check _) fun _ =>
      passage.bind (keeps_request _ _) fun _ => passage.check _
  written _ _ _ := rfl

end TokensKept

end Session

/-- The authorizations with which the extractor asks for releases and tags in an operation. -/
def Operation.lookups (operation : Operation) (s : Session) : List String :=
  match operation.client with
  | .extractor => Release.lookups (Release.requestsSince s (operation.run.perform s).2)
  | .auditor => []

/-- The authorizations of the tokens that an operation uses: that of the token which it hands out,
or those with which the extractor asks for releases and tags. -/
def Operation.used (operation : Operation) (s : Session) : List String :=
  match operation with
  | .nextToken =>
    match (Audit.nextToken.perform s).1 with
    | .ok token => [Release.authorization token]
    | .error _ => []
  | operation => operation.lookups s

theorem Operation.tokens_of_auditor {operation : Operation} (hclient : operation.client = .auditor)
    (s : Session) : (operation.run.perform s).2.tokens = s.tokens := by
  refine operation.keeps_run_of (hclient ▸ Session.TokensKept.auditor) (fun h => ?_) s
  rw [h] at hclient
  cases hclient

theorem Operation.uses_lookups {operation : Operation} (hnext : operation ≠ .nextToken)
    (s : Session) :
    Session.Uses (operation.lookups s) s (operation.run.perform s).2 := by
  unfold lookups
  cases hclient : operation.client with
  | auditor => exact .none (tokens_of_auditor hclient s)
  | extractor =>
    have hkeeps : operation.run.Keeps Session.TurnsKept :=
      operation.keeps_run_of (hclient ▸ Session.TurnsKept.extractor) fun h => absurd h hnext
    obtain ⟨asked, hasked, huses⟩ := hkeeps s
    dsimp only
    rw [Release.requestsSince_eq hasked]
    exact huses

/-- An operation goes on with the turn. -/
theorem Operation.uses (operation : Operation) (s : Session) :
    Session.Uses (operation.used s) s (operation.run.perform s).2 := by
  unfold used
  split
  -- a token that is handed out goes to the end of the row, just as one that is sent
  · exact .one rfl
  · next hnext => exact uses_lookups hnext s

/-- The authorizations of the tokens that operations in a row use. -/
def Session.used : List Operation → Session → List String
  | [], _ => []
  | operation :: operations, s => operation.used s ++ used operations (operation.run.perform s).2

theorem Session.uses_after (operations : List Operation) (s : Session) :
    Uses (s.used operations) s (s.after operations) := by
  induction operations generalizing s with
  | nil => exact .none rfl
  | cons operation operations ih => exact (operation.uses s).append (ih _)

/-- **The tokens are used in turn.**  Let a session begin with any credential, the tokens of which
are what its bars separate, and let any operations follow, each of them successful or not.  Number
in their order the tokens that are handed out and those that the extractor sends for releases and
tags, whether or not they are answered: the one with the number `i` is the token of the credential
with the number `i` modulo their count.  So the tokens that are left are those of the credential,
rotated.  No operation of the auditor changes them, and no question for the limit does. -/
theorem tokens_used_in_turn (credential : Option String) (world : Session)
    (operations : List Operation) :
    (∀ i, i < ((world.opened credential).used operations).length →
      ((world.opened credential).used operations)[i]? =
        (Tokens.given credential)[i % (Tokens.given credential).length]?.map
          Release.authorization) ∧
    ((world.opened credential).after operations).tokens.toList =
      (Tokens.given credential).rotate ((world.opened credential).used operations).length ∧
    (∀ operation : Operation, (operation.client = .auditor ∨
        ∃ client, operation = .limit client ∨ operation = .awaitLimit client) →
      ∀ s, (operation.run.perform s).2.tokens = s.tokens) := by
  have huses := Session.uses_after operations (world.opened credential)
  have hgiven : (world.opened credential).tokens.toList = Tokens.given credential :=
    Tokens.toList_ofCredential credential
  refine ⟨fun i hi => ?_, ?_, ?_⟩
  · rw [← hgiven, ← Tokens.getElem?_inTurn_mod _ hi, ← List.getElem?_map, ← huses.inTurn]
  · rw [huses.tokens, Tokens.toList_after, hgiven]
  · rintro operation (hclient | ⟨client, rfl | rfl⟩) s
    · exact Operation.tokens_of_auditor hclient s
    · exact Session.TokensKept.keeps_limit client s
    · exact Session.TokensKept.keeps_awaitLimit client s

example : (Session.opened (some "a||b") {}).used
    [.nextToken, .tags (.text "own/repo"), .limit .extractor, .release .auditor (.text "own/act"),
      .nextToken, .nextToken] = ["token a", "token ", "token b", "token a"] := by
  decide +kernel

end WorkflowAudit
