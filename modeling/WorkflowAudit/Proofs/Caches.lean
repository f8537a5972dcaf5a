import WorkflowAudit.Proofs.Keys
import WorkflowAudit.Proofs.Operations
import WorkflowAudit.Proofs.Showable

/-! # What is known stays known

Releases and tags are looked up in the store first, and what is fetched is put there.  Both caches
only grow, and a document goes into one of them only after a look that found none under its key; so
a cache with one document for each key stays like that, whatever operations follow and however they
end (`CachesKept`).

A lookup that returns leaves its answer in the store, whether it came from there or from the service
(`Release.known_of_latest`, `Release.known_of_tags`).  From then on the same question gets the same
answer from the store, at no cost: `caches_hold_over_sessions`.
-/
namespace WorkflowAudit

open Audit

/-- A text is equal to itself only. -/
theorem Value.text_equal_iff {s : String} {v : Value} :
    (Value.text s).equal v = true ↔ v = .text s := by
  cases v with
  | text t =>
    simp only [equal, scalarEqual, beq_iff_eq, Value.text.injEq]
    exact eq_comm
  | _ => simp [equal, scalarEqual, number?]

namespace Store

variable {store store' : Store} {collection name : String} {key value document : Value}

/-- No two documents of a collection have the same value in a field. -/
def OneEach (store : Store) (collection name : String) : Prop :=
  ∀ value, (store.documents collection).countP (matchesField name value) ≤ 1

theorem oneEach_congr (h : store'.documents collection = store.documents collection)
    (hone : store.OneEach collection name) : store'.OneEach collection name := by
  intro value
  rw [h]
  exact hone value

/-- What is found in a collection is still found when documents have come behind it. -/
theorem findOne?_of_prefix (hgrown : store.documents collection <+: store'.documents collection)
    (h : store.findOne? collection name value = some document) :
    store'.findOne? collection name value = some document := by
  obtain ⟨added, hadded⟩ := hgrown
  unfold findOne? at h ⊢
  rw [← hadded, List.find?_append, h]
  rfl

/-- A document that is put in where there was none like it is the one that is found. -/
theorem findOne?_insert (h : store.findOne? collection name value = none)
    (hmatches : matchesField name value document = true) :
    (store.insert collection document).findOne? collection name value = some document := by
  unfold findOne? at h ⊢
  rw [documents_insert_self, List.find?_append, h, Option.none_or, List.find?_cons, hmatches]

theorem prefix_insert (store : Store) (collection other : String) (document : Value) :
    store.documents other <+: (store.insert collection document).documents other := by
  by_cases h : other = collection
  · rw [h, documents_insert_self]
    exact List.prefix_append _ _
  · have hsame := documents_insert_of_ne store document h
    exact ⟨[], by rw [List.append_nil, hsame]⟩

/-- A document that is put in where there was none like it shares its key with no other. -/
theorem oneEach_insert (hone : store.OneEach collection name)
    (hmissing : store.findOne? collection name key = none)
    (hkey : ∀ value, matchesField name value document = true → value = key) :
    (store.insert collection document).OneEach collection name := by
  intro value
  rw [documents_insert_self, List.countP_append]
  cases hmatches : matchesField name value document with
  | false =>
    have hnone : [document].countP (matchesField name value) = 0 := by
      simp [hmatches]
    rw [hnone]
    exact hone value
  | true =>
    -- the value is the key, and no document before has it
    obtain rfl := hkey value hmatches
    have hnone : (store.documents collection).countP (matchesField name value) = 0 :=
      List.countP_eq_zero.mpr (List.find?_eq_none.mp hmissing)
    rw [hnone, Nat.zero_add]
    exact List.countP_le_length

end Store

/-! ## The documents of the caches -/

namespace Release

variable {name : String} {value release action document : Value}

/-- A release that was given a name has it. -/
theorem matchesField_named (h : named release action = .ok document) (value : Value) :
    Store.matchesField "name" value document = action.equal value := by
  cases release with
  | map kind entries =>
    obtain rfl := pure_ok.mp h
    simp only [Store.matchesField, Entries.field?, Entries.lookup?_insert_self, Option.map_some,
      Option.getD_some]
  | list kind items => cases h
  | _ => cases h

/-- The document in which tags are kept. -/
def tagsDocument (repository tags : Value) : Value :=
  .record [("repo", repository), ("tags", tags)]

theorem matchesField_tagsDocument (repository tags value : Value) :
    Store.matchesField "repo" value (tagsDocument repository tags) = repository.equal value := by
  have hfield : Entries.field? "repo" [(.text "repo", repository), (.text "tags", tags)] =
      some repository := by
    rw [Entries.field?, Entries.lookup?, if_pos (Value.equal_refl _)]
  simp only [tagsDocument, Value.record, Store.matchesField, List.map_cons, List.map_nil, hfield,
    Option.map_some, Option.getD_some]

theorem itemNamed_tagsDocument (repository tags : Value) :
    (tagsDocument repository tags).itemNamed "tags" = .ok tags := rfl

end Release

/-! ## Every operation keeps the caches -/

/-- Each cache has at most one document for each key. -/
structure GoodCaches (store : Store) : Prop where
  releases : store.OneEach Release.releaseCache "name"
  tags : store.OneEach Release.tagsCache "repo"

/-- Between a session and a later one no document was removed or changed, and good caches have
stayed good. -/
structure CachesKept (s s' : Session) : Prop where
  grown : ∀ collection, s.store.documents collection <+: s'.store.documents collection
  good : GoodCaches s.store → GoodCaches s'.store

namespace CachesKept

variable {s s' : Session}

theorem of_documents_eq
    (h : ∀ collection, s'.store.documents collection = s.store.documents collection) :
    CachesKept s s' where
  grown collection := h collection ▸ List.prefix_rfl
  good hgood := ⟨Store.oneEach_congr (h _) hgood.releases, Store.oneEach_congr (h _) hgood.tags⟩

theorem course : Session.Course CachesKept where
  refl _ := of_documents_eq fun _ => rfl
  printed _ _ := of_documents_eq fun _ => rfl
  trans h h' := ⟨fun collection => (h.grown collection).trans (h'.grown collection),
    fun hgood => h'.good (h.good hgood)⟩
  effect h := of_documents_eq fun _ => Session.Changes.documents_eq (.single h) List.not_mem_nil

theorem keeps_insert {collection : String} (hreleases : Release.releaseCache ≠ collection)
    (htags : Release.tagsCache ≠ collection) (document : Value) :
    (Audit.insert collection document).Keeps CachesKept := by
  intro s
  rw [perform_insert]
  refine ⟨fun other => Store.prefix_insert s.store collection other document, fun hgood => ⟨?_, ?_⟩⟩
  · exact Store.oneEach_congr (Store.documents_insert_of_ne _ document hreleases) hgood.releases
  · exact Store.oneEach_congr (Store.documents_insert_of_ne _ document htags) hgood.tags

/-- A lookup of a release puts it in only where none of its name was found. -/
theorem keeps_latest (client : Client) (action : Value) :
    (Release.latest client action).Keeps CachesKept := by
  refine Release.keeps_latest course client action
    fun s name release document haction hmissing hnamed => ?_
  refine ⟨fun other => Store.prefix_insert s.store _ other document, fun hgood => ⟨?_, ?_⟩⟩
  · refine Store.oneEach_insert hgood.releases hmissing fun value hmatches => ?_
    rw [Release.matchesField_named hnamed, haction] at hmatches
    exact (Value.text_equal_iff.mp hmatches).trans haction.symm
  · exact Store.oneEach_congr (Store.documents_insert_of_ne _ document (by decide)) hgood.tags

/-- A lookup of tags puts them in only where none of their repository were found. -/
theorem keeps_tags (repository : Value) : (Release.tags repository).Keeps CachesKept := by
  refine Release.keeps_tags course repository fun s name tags hrepository hmissing => ?_
  refine ⟨fun other => Store.prefix_insert s.store _ other _, fun hgood => ⟨?_, ?_⟩⟩
  · exact Store.oneEach_congr (Store.documents_insert_of_ne _ _ (by decide)) hgood.releases
  · refine Store.oneEach_insert hgood.tags hmissing fun value hmatches => ?_
    have hequal := (Release.matchesField_tagsDocument repository tags value).symm.trans hmatches
    rw [hrepository] at hequal
    exact (Value.text_equal_iff.mp hequal).trans hrepository.symm

/-- Any row of operations keeps the caches. -/
theorem after (operations : List Operation) (s : Session) : CachesKept s (s.after operations) := by
  refine Session.keeps_after course.toPassage (fun operation => ?_) operations s
  exact operation.keeps_run course keeps_latest keeps_tags
    (keeps_insert (by decide) (by decide)) fun s files => of_documents_eq fun _ => rfl

end CachesKept

/-! ## What a lookup leaves in the store -/

namespace Release

variable {client : Client} {s s₁ s₂ s' : Session} {action repository release tags document : Value}

/-- Taking a token and asking the service fill no collection. -/
theorem findOne?_after_request {path token collection name : String} {answer : Answer}
    {value : Value}
    (htoken : (tokenFor client).perform s = (.ok token, s₁))
    (hanswer : (request path (authorization token)).perform s₁ = (.ok answer, s₂)) :
    s₂.store.findOne? collection name value = s.store.findOne? collection name value := by
  have htaken := keeps_tokenFor (Session.course_changes []) client s
  rw [htoken] at htaken
  have hasked := (Session.course_changes []).request path (authorization token) s₁
  rw [hanswer] at hasked
  rw [hasked.findOne?_eq, htaken.findOne?_eq]

/-- A release that was returned is found in the store. -/
theorem known_of_latest (h : (latest client action).perform s = (.ok release, s')) :
    s'.store.findOne? releaseCache "name" action = some release := by
  obtain ⟨session, s₀, -, h⟩ := perform_bind_ok.mp h
  generalize answersFor session releasePath action + 1 = attempts at h
  induction attempts generalizing s₀ with
  | zero => cases h
  | succ attempts ih =>
    unfold latestWithin at h
    obtain ⟨line, s₁, -, h⟩ := perform_bind_ok.mp h
    obtain ⟨⟨⟩, s₁, -, h⟩ := perform_bind_ok.mp h
    rw [perform_bind, perform_findOne] at h
    cases hfound : s₁.store.findOne? releaseCache "name" action with
    | some known =>
      rw [hfound] at h
      obtain ⟨rfl, rfl⟩ := perform_pure_ok.mp h
      exact hfound
    | none =>
      rw [hfound] at h
      obtain ⟨name, s₂, hcheck, h⟩ := perform_bind_ok.mp h
      obtain ⟨-, rfl⟩ := perform_check_ok.mp hcheck
      obtain ⟨token, s₂, htoken, h⟩ := perform_bind_ok.mp h
      obtain ⟨answer, s₃, hanswer, h⟩ := perform_bind_ok.mp h
      split at h
      · obtain ⟨found, s₄, hcheck, h⟩ := perform_bind_ok.mp h
        obtain ⟨-, rfl⟩ := perform_check_ok.mp hcheck
        obtain ⟨document, s₄, hcheck, h⟩ := perform_bind_ok.mp h
        obtain ⟨hnamed, rfl⟩ := perform_check_ok.mp hcheck
        rw [perform_bind, perform_insert] at h
        obtain ⟨rfl, rfl⟩ := perform_pure_ok.mp h
        -- what is returned is what was put in, and it is the first of its name
        refine Store.findOne?_insert ((findOne?_after_request htoken hanswer).trans hfound) ?_
        rw [matchesField_named hnamed, Value.equal_refl]
      · obtain ⟨-, s₄, -, h⟩ := perform_bind_ok.mp h
        obtain ⟨-, s₅, -, h⟩ := perform_bind_ok.mp h
        exact ih s₅ h

/-- Tags that were returned are those of a document in the store. -/
theorem known_of_tags (h : (Release.tags repository).perform s = (.ok tags, s')) :
    ∃ document, s'.store.findOne? tagsCache "repo" repository = some document ∧
      document.itemNamed "tags" = .ok tags := by
  obtain ⟨session, s₀, -, h⟩ := perform_bind_ok.mp h
  generalize answersFor session tagsPath repository + 1 = attempts at h
  induction attempts generalizing s₀ with
  | zero => cases h
  | succ attempts ih =>
    unfold tagsWithin at h
    obtain ⟨shown, s₁, -, h⟩ := perform_bind_ok.mp h
    obtain ⟨⟨⟩, s₁, -, h⟩ := perform_bind_ok.mp h
    rw [perform_bind, perform_findOne] at h
    cases hfound : s₁.store.findOne? tagsCache "repo" repository with
    | some known =>
      rw [hfound] at h
      obtain ⟨htags, rfl⟩ := perform_check_ok.mp h
      exact ⟨known, hfound, htags⟩
    | none =>
      rw [hfound] at h
      obtain ⟨name, s₂, hcheck, h⟩ := perform_bind_ok.mp h
      obtain ⟨-, rfl⟩ := perform_check_ok.mp hcheck
      obtain ⟨token, s₂, htoken, h⟩ := perform_bind_ok.mp h
      obtain ⟨answer, s₃, hanswer, h⟩ := perform_bind_ok.mp h
      split at h
      · obtain ⟨found, s₄, hcheck, h⟩ := perform_bind_ok.mp h
        obtain ⟨-, rfl⟩ := perform_check_ok.mp hcheck
        rw [perform_bind, perform_insert] at h
        obtain ⟨rfl, rfl⟩ := perform_pure_ok.mp h
        refine ⟨tagsDocument repository found, ?_, itemNamed_tagsDocument repository found⟩
        have htoken : (tokenFor .extractor).perform s₁ = (.ok token, s₂) := htoken
        refine Store.findOne?_insert ((findOne?_after_request htoken hanswer).trans hfound) ?_
        exact (matchesField_tagsDocument repository found repository).trans (Value.equal_refl _)
      · obtain ⟨-, s₄, -, h⟩ := perform_bind_ok.mp h
        obtain ⟨-, s₅, -, h⟩ := perform_bind_ok.mp h
        exact ih s₅ h

/-- What is said before a release is looked for. -/
def releaseAnnouncement (client : Client) (action : Value) : List Char :=
  match client with
  | .extractor => "Getting data for the action ".toList ++ action.displayed
  | .auditor => "Getting data for ".toList ++ action.displayed

theorem announcement_ok {line : List Char} :
    announcement client action = .ok line ↔
      action.isShowable = true ∧ releaseAnnouncement client action = line := by
  unfold announcement releaseAnnouncement
  cases client with
  | extractor =>
    rw [bind_ok]
    simp [Value.shown_ok, and_assoc]
  | auditor =>
    rw [bind_ok]
    simp [Value.shown_ok, and_assoc]

/-- An action whose release was returned could be named. -/
theorem isShowable_of_latest (h : (latest client action).perform s = (.ok release, s')) :
    action.isShowable = true := by
  obtain ⟨session, s₀, -, h⟩ := perform_bind_ok.mp h
  obtain ⟨line, s₁, hcheck, -⟩ := perform_bind_ok.mp h
  exact (announcement_ok.mp (perform_check_ok.mp hcheck).1).1

/-- A release that is known is returned at once. -/
theorem perform_latest_of_known (hshown : action.isShowable = true)
    (h : s.store.findOne? releaseCache "name" action = some release) :
    (latest client action).perform s =
      (.ok release, s.printed (releaseAnnouncement client action ++ ['\n'])) := by
  unfold latest
  rw [perform_bind, perform_get]
  simp only [latestWithin, perform_bind, perform_check, announcement_ok.mpr ⟨hshown, rfl⟩,
    perform_say, perform_findOne, Session.store_printed, h, perform_pure]

/-- What is said before tags are looked for. -/
def tagsAnnouncement (repository : Value) : List Char :=
  "Getting tags for ".toList ++ repository.displayed

/-- A repository whose tags were returned could be named. -/
theorem isShowable_of_tags (h : (Release.tags repository).perform s = (.ok tags, s')) :
    repository.isShowable = true := by
  obtain ⟨session, s₀, -, h⟩ := perform_bind_ok.mp h
  obtain ⟨shown, s₁, hcheck, -⟩ := perform_bind_ok.mp h
  exact (Value.shown_ok.mp (perform_check_ok.mp hcheck).1).1

/-- Tags that are known are returned at once. -/
theorem perform_tags_of_known (hshown : repository.isShowable = true)
    (h : s.store.findOne? tagsCache "repo" repository = some document)
    (htags : document.itemNamed "tags" = .ok tags) :
    (Release.tags repository).perform s =
      (.ok tags, s.printed (tagsAnnouncement repository ++ ['\n'])) := by
  unfold Release.tags
  rw [perform_bind, perform_get]
  simp only [tagsWithin, perform_bind, perform_check, Value.shown_of_isShowable hshown, perform_say,
    perform_findOne, Session.store_printed, h, htags]
  rfl

end Release

/-! ## Any session -/

variable {s : Session}

/-- **The caches hold over any session.**  Start from good caches and let any operations follow,
each of them successful or not.  The caches are still good, and no document of theirs was removed or
changed.  And once a release or the tags of a repository were returned, then after any further
operations the same question, asked by either client, gets the same answer, and all that happens is
that it is announced: nothing is asked of the service and nothing is put in, whatever answers,
tokens and time the session has left. -/
theorem caches_hold_over_sessions (hgood : GoodCaches s.store) (operations : List Operation) :
    GoodCaches (s.after operations).store ∧
    (∀ collection ∈ [Release.releaseCache, Release.tagsCache],
      s.store.documents collection <+: (s.after operations).store.documents collection) ∧
    (∀ client action release s₁,
      (Operation.release client (.text action)).run.perform
        (s.after operations) = (.ok release, s₁) →
      ∀ more client' t, t.store = (s₁.after more).store →
        (Operation.release client' (.text action)).run.perform t =
          (.ok release, t.printed (Release.releaseAnnouncement client' (.text action) ++ ['\n']))) ∧
    (∀ repository tags s₁,
      (Operation.tags (.text repository)).run.perform (s.after operations) = (.ok tags, s₁) →
      ∀ more t, t.store = (s₁.after more).store →
        (Operation.tags (.text repository)).run.perform t =
          (.ok tags, t.printed (Release.tagsAnnouncement (.text repository) ++ ['\n']))) := by
  have hkept := CachesKept.after operations s
  refine ⟨hkept.good hgood, fun collection _ => hkept.grown collection, ?_, ?_⟩
  · intro client action release s₁ hreturned more client' t ht
    have hknown := Release.known_of_latest hreturned
    have hstill := Store.findOne?_of_prefix ((CachesKept.after more s₁).grown _) hknown
    rw [← ht] at hstill
    exact Release.perform_latest_of_known rfl hstill
  · intro repository tags s₁ hreturned more t ht
    obtain ⟨document, hknown, htags⟩ := Release.known_of_tags hreturned
    have hstill := Store.findOne?_of_prefix ((CachesKept.after more s₁).grown _) hknown
    rw [← ht] at hstill
    exact Release.perform_tags_of_known rfl hstill htags

/-! ### A session that starts with empty caches -/

/-- A session without documents, in which the service refuses a release once and then gives it. -/
def refusedOnce : Session :=
  { answers :=
    [("/repos/own/act/releases/latest", [⟨403, "limit"⟩, ⟨200, "\x7b\"tag_name\": \"v2\"\x7d"⟩]),
      ("/rate_limit", [⟨200, "\x7b\x7d"⟩])] }

/-- The law at a release that is fetched at the second attempt: after it was returned to one client,
and after a lookup of tags that fails, the other client gets it without asking the service. -/
theorem release_known_after_refusal :
    ∃ release s₁,
      (Operation.release .extractor (.text "own/act")).run.perform refusedOnce = (.ok release, s₁) ∧
      (Operation.release .auditor (.text "own/act")).run.perform
          (s₁.after [.tags (.text "own/repo")]) =
        (.ok release, (s₁.after [.tags (.text "own/repo")]).printed
          "Getting data for own/act\n".toList) := by
  have hgood : GoodCaches refusedOnce.store := ⟨fun _ => Nat.zero_le 1, fun _ => Nat.zero_le 1⟩
  have hok : ((Operation.release .extractor (.text "own/act")).run.perform refusedOnce).1.isOk =
      true := by
    decide +kernel
  obtain ⟨release, s₁, hreturned⟩ := exists_of_isOk hok
  obtain ⟨-, -, hreleases, -⟩ := caches_hold_over_sessions hgood []
  exact ⟨release, s₁, hreturned,
    hreleases _ _ _ _ hreturned [.tags (.text "own/repo")] .auditor _ rfl⟩

end WorkflowAudit
