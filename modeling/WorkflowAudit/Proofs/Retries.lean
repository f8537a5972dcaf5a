import WorkflowAudit.Proofs.Tokens

/-! # Lookups that are tried again

What the store does not know is looked up with the service, and looked up again after each refusal.
Every refusal uses up one of the answers that the service has for the lookup, so the lookup ends,
after at most two requests for each answer and one more.

How it goes on the way is said for one attempt first (`Query.Answered.tries`,
`Query.Refused.tries`), and an induction over the attempts puts these together
(`Query.Runs.concludes`).  Only the attempt that ends a lookup can change the store, and it does so
as its last step, when nothing can fail any more; so a lookup that fails has left every collection
as it was: `lookups_end_and_fail_cleanly`.
-/
namespace WorkflowAudit

/-- The answers that are left for a path, in order. -/
def Session.answersAt (s : Session) (path : String) : List Answer :=
  (s.answers.lookup path).getD []

theorem Session.length_answersAt (s : Session) (path : String) :
    (s.answersAt path).length = s.answersLeft path := rfl

namespace Release

open Audit Session

/-! ## Requests in turns -/

/-- The addresses that were asked for. -/
def addresses (s : Session) : List String :=
  s.log.requests.map (·.1)

/-- Two addresses in turns, `count` of them. -/
def inTurns (first second : String) : (count : Nat) → List String
  | 0 => []
  | count + 1 => first :: inTurns second first count

/-- Between two sessions something was looked up at a path: `count` requests were sent, and `used`
are the answers that came for the path. -/
structure Tries (path : String) (count : Nat) (used : List Answer) (s t : Session) : Prop where
  /-- The requests are for the path and for the limit in turns, and the path comes first. -/
  addresses_eq : addresses t = addresses s ++ inTurns (service ++ path) (service ++ limitPath) count
  asked : 0 < count
  bounded : count ≤ 2 * s.answersLeft path + 1
  answers_eq : s.answersAt path = used ++ t.answersAt path
  /-- All answers but the last one are refusals. -/
  refused : ∀ answer ∈ used.dropLast, answer.status ≠ 200

/-- A refusal and the wait for the limit come before the attempts that follow. -/
theorem Tries.append {path : String} {answer : Answer} {count : Nat} {used : List Answer}
    {s t u : Session} (h : Tries path 2 [answer] s t) (hstatus : answer.status ≠ 200)
    (hmore : Tries path count used t u) : Tries path (count + 2) (answer :: used) s u := by
  have hanswers : s.answersAt path = answer :: t.answersAt path := h.answers_eq
  have hleft : s.answersLeft path = t.answersLeft path + 1 := by
    rw [← length_answersAt, ← length_answersAt, hanswers, List.length_cons]
  have hbounded := hmore.bounded
  refine ⟨?_, Nat.succ_pos _, by omega, ?_, fun refusal hrefusal => ?_⟩
  · rw [hmore.addresses_eq, h.addresses_eq, List.append_assoc]
    rfl
  · rw [hanswers, hmore.answers_eq, List.cons_append]
  · -- what was a refusal on its own is one among the others too
    cases used with
    | nil => cases hrefusal
    | cons next rest =>
      rw [List.dropLast_cons_cons] at hrefusal
      rcases List.mem_cons.mp hrefusal with rfl | hlater
      · exact hstatus
      · exact hmore.refused refusal hlater

/-! ## How a lookup ends -/

/-- How a lookup ends for which the answers `used` came.  `kept` says which document is kept of what
the service said, and what is returned.  Either the last answer gives a document, which goes to the
end of the collection of the lookup, or the lookup fails and every collection is as it was. -/
inductive Ends (collection : String) (kept : Value → Value → Value → Prop) (used : List Answer)
    (s t : Session) : Except Failure Value → Prop where
  | found {answer : Answer} {body document result : Value} (hlast : used.getLast? = some answer)
    (hstatus : answer.status = 200) (hbody : Json.read answer.body.toList = .ok body)
    (hkept : kept body document result)
    (hadded : t.store.documents collection = s.store.documents collection ++ [document])
    (hothers : ∀ other, other ≠ collection → t.store.documents other = s.store.documents other) :
    Ends collection kept used s t (.ok result)
  | failed {failure : Failure} (h : t.store = s.store) :
    Ends collection kept used s t (.error failure)

namespace Ends

variable {collection : String} {kept kept' : Value → Value → Value → Prop} {answer : Answer}
  {used : List Answer} {s t u : Session} {outcome : Except Failure Value}

theorem imp (h : Ends collection kept used s t outcome)
    (hkept : ∀ body document result, kept body document result → kept' body document result) :
    Ends collection kept' used s t outcome := by
  cases h with
  | found hlast hstatus hbody hdocument hadded hothers =>
    exact .found hlast hstatus hbody (hkept _ _ _ hdocument) hadded hothers
  | failed h => exact .failed h

/-- Attempts that were refused have not changed the store, and the last answer is still the last. -/
theorem append (hstore : t.store = s.store) (h : Ends collection kept used t u outcome) :
    Ends collection kept (answer :: used) s u outcome := by
  cases h with
  | found hlast hstatus hbody hkept hadded hothers =>
    rw [hstore] at hadded hothers
    refine .found ?_ hstatus hbody hkept hadded hothers
    rw [List.getLast?_cons, hlast]
    rfl
  | failed h => exact .failed (h.trans hstore)

end Ends

/-- A lookup at a path was made: it was tried as often as it was refused, and then it has ended. -/
def Concludes (path collection : String) (kept : Value → Value → Value → Prop) (s : Session)
    (run : Except Failure Value × Session) : Prop :=
  ∃ count used, Tries path count used s run.2 ∧ Ends collection kept used s run.2 run.1

/-! ## One attempt -/

namespace Query

variable {query : Query} {name : String} {s t u : Session} {outcome : Except Failure Value}

/-- An answer comes after one request. -/
theorem Answered.tries {answer : Answer} (h : query.Answered s answer t)
    (hkey : query.key = .text name) :
    Tries (query.path name) 1 [answer] s t ∧ t.store = s.store := by
  obtain @⟨name', left, -, hkey', htaken⟩ := h
  obtain rfl : name = name' := Value.text.inj (hkey.symm.trans hkey')
  refine ⟨⟨?_, Nat.one_pos, by omega, (lookup_takeAnswer? htaken).1, fun _ hmem => ?_⟩, rfl⟩
  · exact List.map_append
  · cases hmem

/-- A refusal is followed by one request for the limit, whatever comes of the wait. -/
theorem Refused.tries {waited : Except Failure Unit} (h : query.Refused s t)
    (hkey : query.key = .text name) (hwait : (awaitLimit query.client).perform t = (waited, u)) :
    ∃ answer, answer.status ≠ 200 ∧ Tries (query.path name) 2 [answer] s u ∧ u.store = s.store := by
  obtain @⟨answer, t, hanswered, hstatus⟩ := h
  obtain ⟨htries, hstore⟩ := hanswered.tries hkey
  have hlimit := asksLimit_of_awaitLimit hwait
  have hleft : u.answersAt (query.path name) = t.answersAt (query.path name) :=
    congrArg (·.getD []) (hlimit.answers _ (query.path_ne name))
  have hanswers : s.answersAt (query.path name) = [answer] ++ u.answersAt (query.path name) := by
    rw [hleft, htries.answers_eq]
  have hsome : 0 < s.answersLeft (query.path name) := by
    rw [← length_answersAt, hanswers]
    exact Nat.succ_pos _
  refine ⟨answer, hstatus, ⟨?_, Nat.two_pos, by omega, hanswers, fun _ hmem => ?_⟩,
    hlimit.store.trans hstore⟩
  · have hrequests := congrArg (List.map (·.1)) hlimit.requests
    rw [List.map_append] at hrequests
    show addresses u = _
    calc addresses u
        = addresses t ++ [service ++ limitPath] := hrequests
      _ = addresses s ++ [service ++ query.path name, service ++ limitPath] := by
        rw [htries.addresses_eq, List.append_assoc]
        rfl
  · cases hmem

/-- What a query keeps of what the service says. -/
def Keeps (query : Query) (body document result : Value) : Prop :=
  query.keep body = .ok (document, result)

/-- An attempt that ends a lookup of something the store does not know. -/
theorem Settles.concludes (h : query.Settles s outcome t) (hkey : query.key = .text name)
    (hmissing : s.store.findOne? query.collection query.field query.key = none) :
    Concludes (query.path name) query.collection query.Keeps s (outcome, t) := by
  cases h with
  | unsaid hunsaid =>
    have hsaid := query.isOk_announcement name hkey
    rw [hunsaid] at hsaid
    cases hsaid
  | known hfound =>
    rw [hmissing] at hfound
    cases hfound
  | unnamed _ hname =>
    rw [hkey] at hname
    cases hname
  | @unanswered name' _ hkey' hnone =>
    obtain rfl : name = name' := Value.text.inj (hkey.symm.trans hkey')
    refine ⟨1, [], ⟨List.map_append, Nat.one_pos, by omega, rfl, fun _ hmem => ?_⟩, .failed rfl⟩
    cases hmem
  | spoiled hanswered hstatus hsettle =>
    obtain ⟨htries, hstore⟩ := hanswered.tries hkey
    exact ⟨1, _, htries, .failed hstore⟩
  | @given answer t found hanswered hstatus hsettle =>
    obtain ⟨htries, hstore⟩ := hanswered.tries hkey
    obtain ⟨body, hbody, hkeep⟩ := bind_ok.mp hsettle
    refine ⟨1, _, ⟨htries.addresses_eq, htries.asked, htries.bounded, htries.answers_eq,
      htries.refused⟩, .found rfl hstatus hbody hkeep ?_ fun other hother => ?_⟩
    · rw [store_inserted, Store.documents_insert_self, hstore]
    · rw [store_inserted, Store.documents_insert_of_ne _ _ hother, hstore]
  | stopped hrefused hwait =>
    obtain ⟨answer, -, htries, hstore⟩ := hrefused.tries hkey hwait
    exact ⟨2, _, htries, .failed hstore⟩

/-! ## All attempts -/

/-- The attempts of a lookup of something the store does not know. -/
theorem Runs.concludes (h : query.Runs s outcome t) (hkey : query.key = .text name)
    (hmissing : s.store.findOne? query.collection query.field query.key = none) :
    Concludes (query.path name) query.collection query.Keeps s (outcome, t) := by
  induction h with
  | settled h => exact h.concludes hkey hmissing
  | @retried s t u outcome h _ ih =>
    obtain ⟨hrefused, hwait⟩ := h
    obtain ⟨answer, hstatus, htries, hstore⟩ := hrefused.tries hkey hwait
    -- a refusal leaves the store alone, so what was missing still is
    obtain ⟨count, used, hmore, hends⟩ := ih (by rw [hstore]; exact hmissing)
    exact ⟨count + 2, answer :: used, htries.append hstatus hmore, hends.append hstore⟩

theorem concludes_run (query : Query) (hkey : query.key = .text name)
    (hmissing : s.store.findOne? query.collection query.field query.key = none) :
    Concludes (query.path name) query.collection query.Keeps s (query.run.perform s) :=
  (query.runs_run s).concludes hkey hmissing

/-- More attempts than there are answers make no difference. -/
theorem perform_within_of_lt (query : Query) {attempts : Nat}
    (henough : answersFor s query.path query.key < attempts) :
    (query.within attempts).perform s = query.run.perform s :=
  (query.runs_run s).perform_within henough

end Query

/-! ## Releases and tags -/

/-- What is kept of a release: all that the service said of it, under the name of its action. -/
structure KeptRelease (action : String) (body document result : Value) : Prop where
  exists_entries : ∃ kind entries, body = .map kind entries ∧
    document = .map kind (Entries.insert (.text "name") (.text action) entries)
  name_eq : document.field "name" = .ok (.text action)
  result_eq : result = document

theorem keptRelease_of_keeps {client : Client} {action : String} {body document result : Value}
    (h : (releaseQuery client (.text action)).Keeps body document result) :
    KeptRelease action body document result := by
  obtain ⟨found, hnamed, h⟩ := bind_ok.mp h
  obtain ⟨rfl, rfl⟩ := Prod.mk.inj (pure_ok.mp h)
  cases body with
  | map kind entries =>
    obtain rfl := pure_ok.mp hnamed
    refine ⟨⟨kind, entries, rfl, rfl⟩, ?_, rfl⟩
    show Except.ok ((Entries.field? "name" _).getD .null) = _
    rw [Entries.field?, Entries.lookup?_insert_self]
    rfl
  | list kind items => cases hnamed
  | _ => cases hnamed

/-- What is kept of tags: the repository and what the service said, which is returned. -/
structure KeptTags (repository : String) (body document result : Value) : Prop where
  document_eq : document = .record [("repo", .text repository), ("tags", body)]
  result_eq : result = body

theorem keptTags_of_keeps {repository : String} {body document result : Value}
    (h : (tagsQuery (.text repository)).Keeps body document result) :
    KeptTags repository body document result := by
  obtain ⟨rfl, rfl⟩ := Prod.mk.inj (pure_ok.mp h)
  exact ⟨rfl, rfl⟩

theorem Concludes.imp {path collection : String} {kept kept' : Value → Value → Value → Prop}
    {s : Session}
    {run : Except Failure Value × Session} (h : Concludes path collection kept s run)
    (hkept : ∀ body document result, kept body document result → kept' body document result) :
    Concludes path collection kept' s run := by
  obtain ⟨count, used, htries, hends⟩ := h
  exact ⟨count, used, htries, hends.imp hkept⟩

/-- **Lookups end, and fail cleanly.**  In any session, let either client look up a release, or the
extractor tags, of which the store has none.  The requests are for what is looked up and for the
limit in turns, what is looked up first, and there are at most two for each answer that the service
has for the lookup, and one more.  Of the answers that come for the lookup, all but the last are
refusals.  Either the last one gives what is returned, and one document is put at the end of the
collection of the lookup; or the lookup fails and every collection is as it was.  That attempts are
counted at all makes no difference: any number of them beyond that of the answers gives the same
run. -/
theorem lookups_end_and_fail_cleanly (s : Session) (name : String) :
    (s.store.findOne? releaseCache "name" (.text name) = none → ∀ client,
      Concludes (releasePath name) releaseCache (KeptRelease name) s
        ((Operation.release client (.text name)).run.perform s)) ∧
    (s.store.findOne? tagsCache "repo" (.text name) = none →
      Concludes (tagsPath name) tagsCache (KeptTags name) s
        ((Operation.tags (.text name)).run.perform s)) ∧
    (∀ client attempts, s.answersLeft (releasePath name) < attempts →
      (latestWithin client (.text name) attempts).perform s =
        (Operation.release client (.text name)).run.perform s) ∧
    (∀ attempts, s.answersLeft (tagsPath name) < attempts →
      (tagsWithin (.text name) attempts).perform s =
        (Operation.tags (.text name)).run.perform s) := by
  refine ⟨fun hmissing client => ?_, fun hmissing => ?_, fun client attempts henough => ?_,
    fun attempts henough => ?_⟩
  · show Concludes _ _ _ s ((latest client (.text name)).perform s)
    rw [latest_eq]
    have hrun := (releaseQuery client (.text name)).concludes_run rfl hmissing
    exact hrun.imp fun _ _ _ => keptRelease_of_keeps
  · show Concludes _ _ _ s ((tags (.text name)).perform s)
    rw [tags_eq]
    have hrun := (tagsQuery (.text name)).concludes_run rfl hmissing
    exact hrun.imp fun _ _ _ => keptTags_of_keeps
  · show _ = (latest client (.text name)).perform s
    rw [latest_eq, latestWithin_eq]
    exact (releaseQuery client (.text name)).perform_within_of_lt henough
  · show _ = (tags (.text name)).perform s
    rw [tags_eq, tagsWithin_eq]
    exact (tagsQuery (.text name)).perform_within_of_lt henough

/-- The law in a session in which a release is refused once and then given, and in which the service
has no tags: the first lookup returns, the second one fails. -/
theorem lookups_after_refusal_end :
    ((Operation.release .extractor (.text "own/act")).run.perform refusedOnce).1.isOk = true ∧
    Concludes (releasePath "own/act") releaseCache (KeptRelease "own/act") refusedOnce
      ((Operation.release .extractor (.text "own/act")).run.perform refusedOnce) ∧
    ((Operation.tags (.text "own/act")).run.perform refusedOnce).1.isOk = false ∧
    Concludes (tagsPath "own/act") tagsCache (KeptTags "own/act") refusedOnce
      ((Operation.tags (.text "own/act")).run.perform refusedOnce) ∧
    (latestWithin .extractor (.text "own/act") 3).perform refusedOnce =
      (Operation.release .extractor (.text "own/act")).run.perform refusedOnce ∧
    (tagsWithin (.text "own/act") 1).perform refusedOnce =
      (Operation.tags (.text "own/act")).run.perform refusedOnce := by
  obtain ⟨hrelease, htags, hattempts, hattempts'⟩ :=
    lookups_end_and_fail_cleanly refusedOnce "own/act"
  exact ⟨by decide +kernel, hrelease rfl .extractor, by decide +kernel, htags rfl,
    hattempts .extractor 3 (by decide +kernel), hattempts' 1 (by decide +kernel)⟩

end Release

end WorkflowAudit
