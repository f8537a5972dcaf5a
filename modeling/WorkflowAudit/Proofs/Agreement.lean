import WorkflowAudit.Proofs.Caches
import WorkflowAudit.Proofs.WritableReports

/-! # The stored and the written report agree

Two operations make reports.  `Report.store` takes the tags of one repository, from the store once
they are known, and keeps the report as a document; `Report.write` asks the service for the tags of
every file and writes the report to a file.  Both go through `Report.build`, and where they get the
same tags, they build the same report or fail in the same way (`stored_and_written_report_agree`).
The two then differ in the words of the labels, and in one more point: a stored report may have an
integer that is too long to be written, and then writing it fails and leaves an empty file.

That the tags are the same is seen differently in the two.  The store answers the same every time;
the service has its answers scripted, one for each request, so the statement speaks of the answers
to the requests that are made (`Session.AnsweredWith`).
-/
namespace WorkflowAudit

/-! ## Answers to requests -/

namespace Session

/-- The answers that are left for a path, in order. -/
def answersTo (s : Session) (path : String) : List Answer :=
  (s.answers.lookup path).getD []

/-- The number of requests that were made for a path. -/
def asksOf (s : Session) (path : String) : Nat :=
  s.log.requests.countP fun (address, _) => address == service ++ path

/-- Every request for a path that is made between two sessions is answered with a text that reads as
a value: the first with the first answer left, the second with the second, and so on. -/
def AnsweredWith (value : Value) (path : String) (s final : Session) : Prop :=
  ∀ i, i < final.asksOf path - s.asksOf path →
    ∃ answer, (s.answersTo path)[i]? = some answer ∧ Json.read answer.body.toList = .ok value

theorem asksOf_mono {path : String} {s s' : Session} (h : s.log.requests <+: s'.log.requests) :
    s.asksOf path ≤ s'.asksOf path :=
  h.sublist.countP_le

theorem asksOf_asked (s : Session) (path authorization : String) :
    (s.asked path authorization).asksOf path = s.asksOf path + 1 := by
  simp [asksOf, asked]

/-- What is known of the answers to come is still known after one more request was answered. -/
theorem AnsweredWith.after {value : Value} {path other authorization : String} {s final : Session}
    {answer : Answer} {left : List Answer} {rest : List (String × List Answer)}
    (hnext : s.answersTo path = answer :: left) (hleft : (rest.lookup path).getD [] = left)
    (hothers : ∀ other, other ≠ path → rest.lookup other = s.answers.lookup other)
    (h : AnsweredWith value other s final) :
    AnsweredWith value other { s.asked path authorization with answers := rest } final := by
  intro i hi
  by_cases hother : other = path
  · -- one request was noted and one answer taken, so the others move up by one
    subst hother
    have hasks : Session.asksOf { s.asked other authorization with answers := rest } other =
        s.asksOf other + 1 := asksOf_asked s other authorization
    obtain ⟨found, hfound, hread⟩ := h (i + 1) (by omega)
    rw [hnext, List.getElem?_cons_succ] at hfound
    refine ⟨found, ?_, hread⟩
    unfold answersTo
    rw [hleft]
    exact hfound
  · -- another path keeps its answers; its requests are bounded by the log, which only grows
    have hasks : s.asksOf other ≤
        Session.asksOf { s.asked path authorization with answers := rest } other :=
      asksOf_mono (List.prefix_append _ _)
    obtain ⟨found, hfound, hread⟩ := h i (by omega)
    refine ⟨found, ?_, hread⟩
    unfold answersTo at hfound ⊢
    rw [hothers other hother]
    exact hfound

end Session

namespace Report

open Audit Session

/-! ## Where the tags are the same every time -/

/-- A scene in which the store knows a document of tags. -/
def knownTags (repository document : Value) : Scene [Release.tagsCache] where
  holds s := s.store.findOne? Release.tagsCache "repo" repository = some document
  ends _ := True
  holds_printed _ h := h
  ends_earlier _ h := h

theorem gives_tags {repository document tags : Value} (hshown : repository.isShowable = true)
    (h : document.itemNamed "tags" = .ok tags) :
    (knownTags repository document).Gives (Release.tags repository) (.ok tags) := by
  intro s hs _
  rw [Release.perform_tags_of_known hshown hs h]
  exact ⟨rfl, hs⟩

/-- A scene in which the requests for some paths, up to a final session, are answered with the same
value. -/
def answeredTags (tags : Value) (paths : String → Prop) (final : Session) : Scene [] where
  holds s := ∀ path, paths path → AnsweredWith tags path s final
  ends s := s.log.requests <+: final.log.requests
  holds_printed _ h := h
  ends_earlier hchanges h := hchanges.requests_prefix.trans h

theorem perform_fetchTags (name : String) (s : Session) :
    (fetchTags (.text name)).perform s =
      match takeAnswer? (Release.tagsPath name) s.answers with
      | some (answer, left) => (Json.read answer.body.toList,
          { s.asked (Release.tagsPath name) (Release.authorization ownToken) with answers := left })
      | none => (.error .noAnswer,
          s.asked (Release.tagsPath name) (Release.authorization ownToken)) := by
  show (Audit.request _ _ >>= fun answer =>
      Audit.check (Json.read answer.body.toList)).perform s = _
  rw [perform_bind, perform_request]
  cases takeAnswer? (Release.tagsPath name) s.answers with
  | none => rfl
  | some taken => exact perform_check _ _

theorem gives_fetchTags {tags : Value} {paths : String → Prop} {final : Session} {name : String}
    (hpath : paths (Release.tagsPath name)) :
    (answeredTags tags paths final).Gives (fetchTags (.text name)) (.ok tags) := by
  intro s hs hends
  have hasked : (s.asked (Release.tagsPath name) (Release.authorization ownToken)).log.requests <+:
      final.log.requests := by
    change ((fetchTags (.text name)).perform s).2.log.requests <+: _ at hends
    rw [perform_fetchTags] at hends
    cases htake : takeAnswer? (Release.tagsPath name) s.answers with
    | none => rwa [htake] at hends
    | some taken => rwa [htake] at hends
  -- the request is one of those that the final session has seen, so there is an answer to it
  have hcount : s.asksOf (Release.tagsPath name) + 1 ≤ final.asksOf (Release.tagsPath name) :=
    asksOf_asked s _ _ ▸ asksOf_mono hasked
  obtain ⟨answer, hanswer, hread⟩ := hs _ hpath 0 (by omega)
  obtain ⟨left, hnext⟩ : ∃ left, s.answersTo (Release.tagsPath name) = answer :: left := by
    cases hall : s.answersTo (Release.tagsPath name) with
    | nil => rw [hall] at hanswer; cases hanswer
    | cons first left =>
      rw [hall] at hanswer
      cases hanswer
      exact ⟨left, rfl⟩
  obtain ⟨rest, htake, hleft, hothers⟩ := exists_takeAnswer? hnext
  rw [perform_fetchTags, htake]
  exact ⟨hread, fun other hother => (hs other hother).after hnext hleft hothers⟩

/-! ## The two operations -/

variable {settings : Entries} {files id repository destination : Value} {s : Session}

/-- A session in which both operations find the same workflows and the same tags, and the written
report has a place to go to. -/
structure SameSources (entries : Entries) (repository tags : Value) (settings : Entries)
    (destination : Value) (s : Session) : Prop where
  /-- The repository can be turned into text. -/
  shown : repository.isShowable = true
  /-- The store knows its tags. -/
  known : ∃ document, s.store.findOne? Release.tagsCache "repo" repository = some document ∧
    document.itemNamed "tags" = .ok tags
  /-- The workflows are saved below the source. -/
  saved : Saves settings s (.map .plain entries)
  /-- The destination takes any text. -/
  writable : setting "dest" settings = .ok destination ∧ destination.isShowable = true ∧
    ∀ text, ∃ written, s.files.writeText (String.ofList destination.displayed) text = .ok written
  /-- Every request for the tags of a file that the written report needs is answered with the same
  tags. -/
  answered : ∀ name, .text name ∈ Entries.keys entries →
    AnsweredWith tags (Release.tagsPath name) s ((write settings).perform s).2

namespace SameSources

variable {entries : Entries} {tags : Value}

/-- The stored report is the assessment of its files with the tags that are known. -/
theorem build_of_known (h : SameSources entries repository tags settings destination s) :
    ((build (fun _ => Release.tags repository) (.map .plain entries)).perform s).1 =
      assessAll tags (.map .plain entries) := by
  obtain ⟨document, hknown, htags⟩ := h.known
  have hgives : (knownTags repository document).Gives
      (build (fun _ => Release.tags repository) (.map .plain entries))
      (assessAll tags (.map .plain entries)) :=
    gives_build (fun _ => Release.within_tags repository List.mem_cons_self)
      (fun _ _ _ _ => gives_tags h.shown htags)
  exact (hgives s hknown trivial).1

/-- A report that was built goes to the destination, and nothing else happens. -/
theorem perform_writeValue (h : SameSources entries repository tags settings destination s)
    {report : Report} {s₁ : Session}
    (hbuild : (build fetchTags (.map .plain entries)).perform s = (.ok report, s₁)) :
    (write settings).perform s = (writeValue (String.ofList destination.displayed)
      (Report.toValue Label.name report)).perform s₁ :=
  perform_write_of_ok h.saved h.writable.1 h.writable.2.1 hbuild

/-- If it can be written, what is left at the destination tells whether an integer in it is too
long. -/
theorem exists_written (h : SameSources entries repository tags settings destination s)
    {report : Report} {s₁ : Session} (hwritable : Report.Writable report)
    (hbuild : (build fetchTags (.map .plain entries)).perform s = (.ok report, s₁)) :
    ∃ written, s.files.writeText (String.ofList destination.displayed)
        (textLeft (Report.toValue Label.name report)) = .ok written ∧
      (write settings).perform s =
        (if (Report.toValue Label.name report).isShowable then .ok () else .error .longInteger,
          { s₁ with files := written }) := by
  obtain ⟨-, -, htakes⟩ := h.writable
  obtain ⟨written, hwritten⟩ := htakes (textLeft (Report.toValue Label.name report))
  have hchanges : Session.Changes [] s _ :=
    within_build within_fetchTags (.map .plain entries) s
  rw [hbuild] at hchanges
  refine ⟨written, hwritten, ?_⟩
  rw [← hchanges.files_eq] at hwritten
  rw [h.perform_writeValue hbuild, perform_writeValue_of_hasForm (hwritable.hasForm _), hwritten]

/-- Writing the report makes no requests beyond those for the tags. -/
theorem log_of_write (h : SameSources entries repository tags settings destination s) :
    ((write settings).perform s).2.log =
      ((build fetchTags (.map .plain entries)).perform s).2.log := by
  rcases hbuild : (build fetchTags (.map .plain entries)).perform s with ⟨outcome, s₁⟩
  cases outcome with
  | error failure => rw [perform_write_of_error h.saved hbuild]
  | ok report =>
    obtain ⟨files, hfiles⟩ := exists_files_of_writeValue (String.ofList destination.displayed)
      (Report.toValue Label.name report) s₁
    rw [h.perform_writeValue hbuild, hfiles]

/-- The written report is the assessment of its files with the tags that are answered. -/
theorem build_of_answered (hjson : (Value.map .plain entries).IsJson)
    (h : SameSources entries repository tags settings destination s) :
    ((build fetchTags (.map .plain entries)).perform s).1 =
      assessAll tags (.map .plain entries) := by
  have hgives : (answeredTags tags
      (fun path => ∃ name, .text name ∈ Entries.keys entries ∧ path = Release.tagsPath name)
      ((write settings).perform s).2).Gives
      (build fetchTags (.map .plain entries)) (assessAll tags (.map .plain entries)) := by
    refine gives_build within_fetchTags fun names hnames file hfile => ?_
    obtain rfl := pure_ok.mp hnames
    cases hjson with
    | map hnames _ =>
      -- the files are named by texts, so each of them has a path
      obtain ⟨entry, hentry, rfl⟩ := List.mem_map.mp hfile
      obtain ⟨name, hname⟩ := hnames entry hentry
      rw [hname] at hfile ⊢
      exact gives_fetchTags ⟨name, hfile, rfl⟩
  refine (hgives s ?_ ?_).1
  · rintro path ⟨name, hname, rfl⟩
    exact h.answered name hname
  · show _ <+: ((write settings).perform s).2.log.requests
    exact h.log_of_write ▸ List.prefix_rfl

end SameSources

/-- **The stored and the written report agree.**  For files made of JSON, in a session where both
operations find the same workflows and the same tags: if storing fails, writing fails in the same
way.  If storing returns, there is one report that is stored with its labels described.  If no
integer in it is too long, it is written, as JSON, with its labels named; otherwise writing fails
and leaves the destination empty.  So the one fails exactly when the other does, but for reports
with too long an integer. -/
theorem stored_and_written_report_agree {entries : Entries} {tags : Value} (id : Value)
    (hjson : (Value.map .plain entries).IsJson)
    (h : SameSources entries repository tags settings destination s) :
    (∀ failure, ((store (.map .plain entries) id repository).perform s).1 = .error failure →
      ((write settings).perform s).1 = .error failure) ∧
    ∀ content, ((store (.map .plain entries) id repository).perform s).1 = .ok content →
      ∃ report, content = Report.toValue Label.description report ∧
        (content.isShowable = true → ∃ text,
          Json.write (Report.toValue Label.name report) = .ok text ∧
          ((write settings).perform s).1 = .ok () ∧
          s.files.writeText (String.ofList destination.displayed) text =
            .ok ((write settings).perform s).2.files) ∧
        (content.isShowable = false → ((write settings).perform s).1 = .error .longInteger ∧
          s.files.writeText (String.ofList destination.displayed) [] =
            .ok ((write settings).perform s).2.files) := by
  -- both operations come to the same assessment, so one of them decides for both
  have hknown := h.build_of_known
  have hanswered := h.build_of_answered hjson
  rw [perform_store, hknown]
  rcases hbuild : (build fetchTags (.map .plain entries)).perform s with ⟨outcome, s₁⟩
  rw [hbuild] at hanswered
  rw [← hanswered]
  cases outcome with
  | error failure =>
    rw [perform_write_of_error h.saved hbuild]
    refine ⟨fun failure' hfailed => ?_, fun content hcontent => (by cases hcontent)⟩
    exact congrArg Except.error (Except.error.inj hfailed)
  | ok report =>
    have hwritable := writable_of_assessAll hjson hanswered.symm
    obtain ⟨written, hwritten, hwrite⟩ := h.exists_written hwritable hbuild
    refine ⟨fun failure hfailed => (by cases hfailed), fun content hcontent => ?_⟩
    obtain rfl := Except.ok.inj hcontent
    refine ⟨report, rfl, fun hshown => ?_, fun hlong => ?_⟩
    · rw [isShowable_toValue _ Label.name] at hshown
      rw [textLeft, if_pos hshown] at hwritten
      rw [hwrite, if_pos hshown]
      exact ⟨_, (hwritable.hasForm _).write_ok.mpr ⟨hshown, rfl⟩, rfl, hwritten⟩
    · rw [isShowable_toValue _ Label.name, ← Bool.not_eq_true] at hlong
      rw [textLeft, if_neg hlong] at hwritten
      rw [hwrite, if_neg hlong]
      exact ⟨rfl, hwritten⟩

/-! ### A file with one workflow -/

/-- A workflow with one trigger of a rank and one job, which declares no permissions. -/
def openWorkflow (rank : Int) : Value :=
  .record [("name", .text "wf"),
    ("events", .plainList [.record [("type", .text "push"), ("security_rank", .int rank)]]),
    ("permissions", .text "None"),
    ("jobs", .record [("job", .record [("permissions", .null), ("steps", .plainList [])])])]

theorem isJson_openWorkflow (rank : Int) :
    (Value.map .plain (oneFile (openWorkflow rank))).IsJson := by
  show (Value.record [("own/repo", .plainList [openWorkflow rank])]).IsJson
  simp [openWorkflow]

/-- A session in which the repository has no tags, and the workflow is saved. -/
def openSession (rank : Int) : Session :=
  { store := [(Release.tagsCache, [.record [("repo", .text "own/repo"), ("tags", .plainList [])]])]
    answers := [("/repos/own/repo/tags", [⟨200, "[]"⟩])]
    files := [(["savedDictWfs.dat"], .saved (.map .plain (oneFile (openWorkflow rank))))] }

/-- The working directory takes a report beside the saved workflows. -/
theorem writeText_here (workflows : Value) (text : List Char) :
    ∃ written, Files.writeText [(["savedDictWfs.dat"], .saved workflows)]
      (String.ofList (Value.text "out.json").displayed) text = .ok written := by
  have hpath : String.ofList (Value.text "out.json").displayed = "out.json" := by decide +kernel
  have hpieces : (Text.pieces '/' "out.json".toList).map String.ofList = ["out.json"] := by
    decide +kernel
  have hinside : ¬ ("out.json".isEmpty ∨ "out.json".startsWith "/" ∨
      Files.target.leavesWorkingDirectory 0 ["out.json"]) := by decide +kernel
  have htarget : Files.target [(["savedDictWfs.dat"], .saved workflows)] "out.json" =
      .free ["out.json"] := by
    unfold Files.target
    rw [hpieces, if_neg hinside]
    rfl
  rw [hpath]
  unfold Files.writeText
  rw [if_neg (by decide +kernel), if_neg (by decide +kernel), htarget]
  exact ⟨_, rfl⟩

theorem sameSources_openSession {rank : Int} (hasks : ((write hereToOut).perform
      (openSession rank)).2.asksOf (Release.tagsPath "own/repo") = 1) :
    SameSources (oneFile (openWorkflow rank)) (.text "own/repo") (.plainList []) hereToOut
      (.text "out.json") (openSession rank) := by
  refine ⟨rfl, ⟨_, rfl, rfl⟩, saves_here rfl, ⟨rfl, rfl, writeText_here _⟩, ?_⟩
  intro name hname i hi
  obtain rfl : name = "own/repo" := by simpa [Entries.keys, oneFile] using hname
  obtain rfl : i = 0 := by omega
  exact ⟨⟨200, "[]"⟩, rfl, rfl⟩

/-- The law at a file with one workflow: both reports are made, and they agree. -/
theorem reports_of_openWorkflow_agree :
    SameSources (oneFile (openWorkflow 1)) (.text "own/repo") (.plainList []) hereToOut
      (.text "out.json") (openSession 1) ∧
    ∃ content report text,
      ((store (.map .plain (oneFile (openWorkflow 1))) (.text "id1") (.text "own/repo")).perform
        (openSession 1)).1 = .ok content ∧
      content = Report.toValue Label.description report ∧
      Json.write (Report.toValue Label.name report) = .ok text ∧
      ((write hereToOut).perform (openSession 1)).1 = .ok () ∧
      (openSession 1).files.writeText (String.ofList (Value.text "out.json").displayed) text =
        .ok ((write hereToOut).perform (openSession 1)).2.files := by
  have hshown : ((store (.map .plain (oneFile (openWorkflow 1))) (.text "id1")
      (.text "own/repo")).perform (openSession 1)).1.toOption.any Value.isShowable = true := by
    decide +kernel
  obtain ⟨content, s', hrun, hshown⟩ := exists_of_any hshown
  have hsources := sameSources_openSession (by decide +kernel :
    ((write hereToOut).perform (openSession 1)).2.asksOf (Release.tagsPath "own/repo") = 1)
  obtain ⟨-, hagree⟩ := stored_and_written_report_agree (.text "id1")
    (isJson_openWorkflow 1) hsources
  have hcontent := congrArg Prod.fst hrun
  obtain ⟨report, hreport, hwritten, -⟩ := hagree content hcontent
  obtain ⟨text, htext, hwrite, hfiles⟩ := hwritten hshown
  exact ⟨hsources, content, report, text, hcontent, hreport, htext, hwrite, hfiles⟩

/-- Storing a report can return where writing it fails: here with a rank that is too long. -/
theorem long_rank_stored_only :
    (Value.map .plain (oneFile (openWorkflow Text.leastLong))).IsJson ∧
    SameSources (oneFile (openWorkflow Text.leastLong)) (.text "own/repo") (.plainList []) hereToOut
      (.text "out.json") (openSession Text.leastLong) ∧
    ((store (.map .plain (oneFile (openWorkflow Text.leastLong))) (.text "id1")
      (.text "own/repo")).perform (openSession Text.leastLong)).1.isOk = true ∧
    ((write hereToOut).perform (openSession Text.leastLong)).1.isOk = false :=
  ⟨isJson_openWorkflow _, sameSources_openSession (by decide +kernel), by decide +kernel,
    by decide +kernel⟩

end Report

end WorkflowAudit
