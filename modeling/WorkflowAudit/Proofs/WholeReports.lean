import WorkflowAudit.Proofs.Agreement

/-! # Reports are written whole, not at all, or emptied

A report goes to its file when it is finished, so nearly every way of failing lies before the file
is touched.  That leaves one gap: the file is opened first and the text is made then, and a report
without a JSON text leaves the file empty.  Whatever the service answers, the report of workflows
made of JSON can be written (`writable_of_build`), unless an integer in it is too long.  So the gap
is there for such reports (`IsSpoilt`) and for no others (`report_written_whole_or_spoilt`).

Beside that, three things are followed through a run.  A text that is written changes one place and
no other (`Files.lookup?_of_writeText`).  Building a report fills no collection.  And it asks for
tags once for each workflow, in order, until it fails (`asks_build`).
-/
namespace WorkflowAudit

/-! ## What a run leaves alone -/

namespace Session

variable {s s' : Session}

/-- Effects that fill no collection leave the store as it is. -/
theorem Changes.store_eq (h : Changes [] s s') : s'.store = s.store := by
  induction h with
  | refl => rfl
  | tail _ hstep ih =>
    cases hstep with
    | inserted document hmem => cases hmem
    | _ => exact ih

/-- Neither do they note an insertion. -/
theorem Changes.inserts_eq (h : Changes [] s s') : s'.log.inserts = s.log.inserts := by
  induction h with
  | refl => rfl
  | tail _ hstep ih =>
    cases hstep with
    | inserted document hmem => cases hmem
    | _ => exact ih

end Session

/-! ## What a run asks for -/

namespace Audit

variable {α β : Type}

/-- Every run of a task makes requests from the front of a list, in order, and all of them if it
returns. -/
def Asks (requests : List (String × String)) (task : Audit α) : Prop :=
  ∀ s, ∃ made, made <+: requests ∧ (task.perform s).2.log.requests = s.log.requests ++ made ∧
    ((task.perform s).1.isOk = true → made = requests)

namespace Asks

variable {requests more : List (String × String)}

/-- A task that makes no request, whether it returns or not. -/
theorem none {task : Audit α} (h : ∀ s, (task.perform s).2.log.requests = s.log.requests) :
    task.Asks [] :=
  fun s => ⟨[], List.prefix_rfl, by rw [h, List.append_nil], fun _ => rfl⟩

theorem pure (a : α) : (Pure.pure a : Audit α).Asks [] := .none fun _ => rfl

theorem say (line : List Char) : (Audit.say line).Asks [] := .none fun _ => rfl

theorem check (result : Except Failure α) : (Audit.check result).Asks [] :=
  .none fun s => by rw [perform_check]

/-- Nothing is asked behind a check that fails. -/
theorem check_bind {result : Except Failure α} {next : α → Audit β}
    (h : ∀ a, result = .ok a → (next a).Asks requests) :
    (Audit.check result >>= next).Asks requests := by
  intro s
  rw [perform_check_bind]
  cases result with
  | error failure => exact ⟨[], List.nil_prefix, (List.append_nil _).symm, fun hok => by cases hok⟩
  | ok a => exact h a rfl s

theorem bind {task : Audit α} {next : α → Audit β} (h : task.Asks requests)
    (hnext : ∀ a, (next a).Asks more) : (task >>= next).Asks (requests ++ more) := by
  intro s
  obtain ⟨made, hmade, hlog, hall⟩ := h s
  rw [perform_bind]
  rcases hrun : task.perform s with ⟨outcome, s₁⟩
  rw [hrun] at hlog hall
  cases outcome with
  | error failure =>
    exact ⟨made, hmade.trans (List.prefix_append _ _), hlog, fun hok => by cases hok⟩
  | ok a =>
    obtain rfl := hall rfl
    obtain ⟨made', hmade', hlog', hall'⟩ := hnext a s₁
    refine ⟨made ++ made', (List.prefix_append_right_inj _).mpr hmade', ?_, fun hok => ?_⟩
    · show ((next a).perform s₁).2.log.requests = _
      rw [hlog', show s₁.log.requests = _ from hlog, List.append_assoc]
    · rw [hall' hok]

theorem foldlM {visit : β → α → Audit β} (requestsFor : α → List (String × String)) {items : List α}
    (h : ∀ found, ∀ a ∈ items, (visit found a).Asks (requestsFor a)) (start : β) :
    (items.foldlM visit start).Asks (items.flatMap requestsFor) := by
  induction items generalizing start with
  | nil => exact .pure start
  | cons a items ih =>
    rw [List.foldlM_cons, List.flatMap_cons]
    exact (h start a List.mem_cons_self).bind
      (ih fun found a' ha' => h found a' (List.mem_cons_of_mem a ha'))

theorem request (path authorization : String) :
    (Audit.request path authorization).Asks [(Session.service ++ path, authorization)] := by
  intro s
  rw [perform_request]
  refine ⟨[(Session.service ++ path, authorization)], List.prefix_rfl, ?_, fun _ => rfl⟩
  cases Session.takeAnswer? path s.answers with
  | none => rfl
  | some taken => rfl

end Asks

/-- A fold of tasks that returns keeps what each of its steps keeps. -/
theorem foldlM_run_induct {visit : β → α → Audit β} {P : β → Prop} {items : List α} {start b : β}
    {s s' : Session}
    (hstep : ∀ found a found' t t', a ∈ items →
      (visit found a).perform t = (.ok found', t') → P found →
      P found')
    (h : (items.foldlM visit start).perform s = (.ok b, s')) (hstart : P start) : P b := by
  induction items generalizing start s with
  | nil =>
    obtain ⟨rfl, -⟩ := perform_pure_ok.mp h
    exact hstart
  | cons a items ih =>
    obtain ⟨mid, s₁, hfirst, hrest⟩ := foldlM_cons_ok.mp h
    have hmid : P mid := hstep start a mid s s₁ List.mem_cons_self hfirst hstart
    exact ih (fun found a' found' t t' ha' =>
      hstep found a' found' t t' (List.mem_cons_of_mem a ha')) hrest hmid

end Audit

/-! ## The requests for a report -/

namespace Report

open Audit

/-- The request for the tags of a file. -/
def tagsRequest (file : Value) : String × String :=
  (Session.service ++ Release.tagsPath (String.ofList file.displayed),
    Release.authorization ownToken)

/-- The workflows that are listed for a file. -/
def listedFor (entries : Entries) (file : Value) : List Value :=
  ((Entries.lookup? file entries).getD .null).items?.getD []

/-- The workflows of files, each with its file, in order. -/
def listed : Value → List (Value × Value)
  | .map _ entries =>
    (Entries.keys entries).flatMap fun file => (listedFor entries file).map fun workflow =>
      (file, workflow)
  | _ => []

theorem asks_fetchTags (name : String) :
    (fetchTags (.text name)).Asks [tagsRequest (.text name)] := by
  have hname : String.ofList (Value.text name).displayed = name := String.ofList_toList
  unfold tagsRequest
  rw [hname]
  refine .check_bind fun path hpath => ?_
  obtain rfl := pure_ok.mp hpath
  exact (Asks.request _ _).bind fun answer => .check _

theorem asks_addUse (name tags : Value) (report : FileReport) (use : Findings.ActionUse) :
    (addUse name tags report use).Asks [] := by
  unfold addUse
  refine .check_bind fun verdict _ => ?_
  obtain ⟨labels, announced⟩ := verdict
  cases announced with
  | true => exact (Asks.say _).bind fun _ => .check _
  | false => exact .check _

/-- A workflow takes the requests for its tags. -/
theorem asks_addWorkflow {fetchTags : Audit Value} {requests : List (String × String)}
    (h : fetchTags.Asks requests) (report : FileReport) (workflow : Value) :
    (addWorkflow fetchTags report workflow).Asks requests := by
  rw [addWorkflow_eq]
  refine .check_bind fun o _ => ?_
  have huses : ∀ tags, (o.uses.foldlM (addUse o.name tags) o.report).Asks [] := by
    intro tags
    have hnothing : o.uses.flatMap (fun _ => ([] : List (String × String))) = [] :=
      List.flatMap_eq_nil_iff.mpr fun _ _ => rfl
    exact hnothing ▸ .foldlM _ (fun found use _ => asks_addUse o.name tags found use) o.report
  exact List.append_nil requests ▸ h.bind huses

/-- A file takes one request for each of its workflows. -/
theorem asks_ofFile {fetchTags : Audit Value} {request : String × String}
    (h : fetchTags.Asks [request])
    (workflows : Value) :
    (ofFile fetchTags workflows).Asks ((workflows.items?.getD []).map fun _ => request) := by
  refine .check_bind fun items hitems => ?_
  have hsome : workflows.items? = some items := by
    unfold Value.items at hitems
    split at hitems
    · rename_i found hfound
      rw [hfound, pure_ok.mp hitems]
    · cases hitems
  rw [hsome, Option.getD_some, List.map_eq_flatMap]
  exact .foldlM _ (fun found workflow _ => asks_addWorkflow h found workflow) []

/-- A file of a mapping takes one request for each workflow that is listed for it. -/
theorem asks_addFile {kind : MapKind} (entries : Entries) (report : Report) (name : String) :
    (addFile fetchTags (.map kind entries) report (.text name)).Asks
      ((listedFor entries (.text name)).map fun _ => tagsRequest (.text name)) := by
  refine .check_bind fun _ _ => .check_bind fun found hfound => ?_
  obtain rfl := pure_ok.mp hfound
  exact List.append_nil (List.map _ _) ▸ (asks_ofFile (asks_fetchTags name) _).bind fun _ => .pure _

/-- **A report takes one request for each workflow**, in order, up to the one at which it fails. -/
theorem asks_build {files : Value} (hjson : files.IsJson) :
    (build fetchTags files).Asks ((listed files).map fun entry => tagsRequest entry.1) := by
  rw [build_eq]
  refine .check_bind fun names hnames => ?_
  cases hentries : files.entriesFor "get" with
  | error failure =>
    -- only a mapping has files, and anything else fails at its first item
    have hlisted : (listed files).map (fun entry => tagsRequest entry.1) =
        names.flatMap fun _ => [] := by
      cases files with
      | map kind entries => cases hentries
      | _ => exact (List.flatMap_eq_nil_iff.mpr fun _ _ => rfl).symm
    rw [hlisted]
    refine .foldlM _ (fun report file _ => ?_) []
    refine .check_bind fun _ _ => .check_bind fun found hfound => ?_
    cases hentries.symm.trans hfound
  | ok entries =>
    cases hjson with
    | @map entries htexts _ =>
      obtain rfl := pure_ok.mp hnames
      have hlisted : (listed (.map .plain entries)).map (fun entry => tagsRequest entry.1) =
          (Entries.keys entries).flatMap fun file =>
            (listedFor entries file).map fun _ => tagsRequest file := by
        simp only [listed, List.map_flatMap, List.map_map, Function.comp_def]
      rw [hlisted]
      refine .foldlM _ (fun report file hfile => ?_) []
      obtain ⟨entry, hentry, rfl⟩ := List.mem_map.mp hfile
      obtain ⟨name, hname⟩ := htexts entry hentry
      rw [hname]
      exact asks_addFile entries report name
    | _ => cases hentries

/-! ## The text of a report -/

variable {s s' : Session}

/-- The report of a file made of JSON can be written, whatever the tags are that come for it. -/
theorem writable_of_ofFile {tags : Audit Value} {listed : Value} {report : FileReport}
    (hjson : listed.IsJson) (h : (ofFile tags listed).perform s = (.ok report, s')) :
    FileReport.Writable report := by
  obtain ⟨workflows, hitems, hassembled⟩ := ofFile_ok h
  refine hassembled.induct (List.forall_mem_nil _)
    fun tags found workflow found' hworkflow hassess hfound => ?_
  exact writable_of_assess (hjson.items hitems workflow hworkflow) hfound hassess

/-- What is listed for a file of JSON is JSON, and null if nothing is. -/
theorem isJson_listed {files : Value} {entries : Entries} (hjson : files.IsJson)
    (h : files.entriesFor "get" = .ok entries) (file : Value) :
    ((Entries.lookup? file entries).getD .null).IsJson := by
  cases hjson with
  | map _ hvalues =>
    obtain rfl := pure_ok.mp h
    cases hlookup : Entries.lookup? file _ with
    | none => exact .null
    | some listed => exact Value.isJson_of_lookup? hvalues hlookup
  | _ => cases h

/-- **A report that was built from JSON can be written**, whatever was answered on the way. -/
theorem writable_of_build {tagsFor : Value → Audit Value} {files : Value} {report : Report}
    (hjson : files.IsJson) (h : (build tagsFor files).perform s = (.ok report, s')) :
    Report.Writable report := by
  rw [build_eq] at h
  obtain ⟨names, s₁, hcheck, hfold⟩ := perform_bind_ok.mp h
  obtain ⟨hnames, rfl⟩ := perform_check_ok.mp hcheck
  refine foldlM_run_induct (fun found file found' t t' hfile hstep hfound => ?_) hfold
    (List.forall_mem_nil _)
  obtain ⟨⟨⟩, t₁, hcheck, hstep⟩ := perform_bind_ok.mp hstep
  obtain ⟨hkey, rfl⟩ := perform_check_ok.mp hcheck
  obtain ⟨entries, t₁, hcheck, hstep⟩ := perform_bind_ok.mp hstep
  obtain ⟨hentries, rfl⟩ := perform_check_ok.mp hcheck
  obtain ⟨fileReport, t₁, hofFile, hstep⟩ := perform_bind_ok.mp hstep
  obtain ⟨rfl, rfl⟩ := perform_pure_ok.mp hstep
  have hname : Json.IsKey file := Json.isKey_of_isJson (hjson.items hnames file hfile) hkey
  exact Entries.forall_mem_insert hfound hname
    (writable_of_ofFile (isJson_listed hjson hentries file) hofFile)

/-! ## Writing a report -/

/-- Building a report leaves the store and the files as they are. -/
theorem build_leaves {files : Value} {outcome : Except Failure Report}
    (h : (build fetchTags files).perform s = (outcome, s')) :
    s'.store = s.store ∧ s'.log.inserts = s.log.inserts ∧ s'.files = s.files := by
  have hchanges : Session.Changes [] s _ := within_build within_fetchTags files s
  rw [h] at hchanges
  exact ⟨hchanges.store_eq, hchanges.inserts_eq, hchanges.files_eq⟩

/-- The requests of a run are those for the first workflows, and for all of them if it returns. -/
theorem exists_asked {files : Value} {outcome : Except Failure Report} (hjson : files.IsJson)
    (h : (build fetchTags files).perform s = (outcome, s')) :
    ∃ asked, asked <+: listed files ∧
      s'.log.requests = s.log.requests ++ asked.map (fun entry => tagsRequest entry.1) ∧
      (outcome.isOk = true → asked = listed files) := by
  obtain ⟨made, hmade, hrequests, hall⟩ := asks_build hjson s
  rw [h] at hrequests hall
  refine ⟨(listed files).take made.length, List.take_prefix _ _, ?_, fun hok => ?_⟩
  · rw [List.map_take, ← List.prefix_iff_eq_take.mp hmade]
    exact hrequests
  · rw [hall hok, List.length_map, List.take_length]

/-- A report is finished and the file at the destination can be opened. -/
structure Opens (settings : Entries) (files : Value) (s : Session) (report : Report) (t : Session)
    (destination : Value) : Prop where
  built : (build fetchTags files).perform s = (.ok report, t)
  given : setting "dest" settings = .ok destination
  shown : destination.isShowable = true
  emptied : ∃ written, s.files.writeText (String.ofList destination.displayed) [] = .ok written

/-- The report of saved workflows is finished and its file is opened, but an integer in it is too
long. -/
def IsSpoilt (settings : Entries) (files : Value) (s : Session) : Prop :=
  ∃ report t destination, Opens settings files s report t destination ∧
    (Report.toValue Label.name report).isShowable = false

section Writing

variable {settings : Entries} {files destination : Value} {report : Report} {t : Session}
  {outcome : Except Failure Report}

theorem IsSpoilt.of_opens (hopens : Opens settings files s report t destination)
    (h : IsSpoilt settings files s) : (Report.toValue Label.name report).isShowable = false := by
  obtain ⟨report', t', destination', hopens', hlong⟩ := h
  obtain rfl := Except.ok.inj (Prod.mk.inj (hopens.built.symm.trans hopens'.built)).1
  exact hlong

/-- Where the file can be opened, the text of the report is left in it. -/
theorem Opens.exists_written (h : Opens settings files s report t destination)
    (hsaved : Saves settings s files) (hjson : files.IsJson) :
    ∃ written, s.files.writeText (String.ofList destination.displayed)
        (textLeft (Report.toValue Label.name report)) = .ok written ∧
      (write settings).perform s =
        (if (Report.toValue Label.name report).isShowable then .ok () else .error .longInteger,
          { t with files := written }) := by
  obtain ⟨emptied, hemptied⟩ := h.emptied
  obtain ⟨written, hwritten⟩ := Files.exists_writeText hemptied
    (textLeft (Report.toValue Label.name report))
  have hform := (writable_of_build hjson h.built).hasForm Label.name
  refine ⟨written, hwritten, ?_⟩
  rw [perform_write_of_ok hsaved h.given h.shown h.built, perform_writeValue_of_hasForm hform,
    (build_leaves h.built).2.2, hwritten]

/-- A report that is not finished, or has no file that can be opened, leaves the session in which it
was built. -/
theorem perform_write_of_not_opens (hsaved : Saves settings s files) (hjson : files.IsJson)
    (hbuild : (build fetchTags files).perform s = (outcome, t))
    (hclosed : ∀ report t destination, ¬ Opens settings files s report t destination) :
    ∃ failure, (write settings).perform s = (.error failure, t) := by
  cases outcome with
  | error failure => exact ⟨failure, perform_write_of_error hsaved hbuild⟩
  | ok report =>
    rw [perform_write hsaved, perform_bind, hbuild]
    dsimp only
    rw [perform_check_bind]
    cases hdestination : setting "dest" settings with
    | error failure => exact ⟨failure, rfl⟩
    | ok destination =>
      dsimp only
      rw [perform_check_bind]
      cases hshown : destination.isShowable with
      | false =>
        rw [Value.shown_of_not_isShowable hshown]
        exact ⟨.longInteger, rfl⟩
      | true =>
        have hform := (writable_of_build hjson hbuild).hasForm Label.name
        rw [Value.shown_of_isShowable hshown]
        dsimp only
        rw [perform_writeValue_of_hasForm hform, (build_leaves hbuild).2.2]
        cases hwritten : s.files.writeText (String.ofList destination.displayed)
            (textLeft (Report.toValue Label.name report)) with
        | error problem => exact ⟨problem, rfl⟩
        | ok written =>
          have hemptied := Files.exists_writeText hwritten []
          exact absurd ⟨hbuild, hdestination, hshown, hemptied⟩ (hclosed report t destination)

end Writing

/-- **A report is written whole, not at all, or emptied.**  Let workflows made of JSON be saved at
the source.  Writing their report fills no collection.  It asks for tags once for each workflow, in
order, up to the workflow at which it fails if it does.  If it returns, it has asked for the tags of
all workflows, the place that the destination leads to holds the whole JSON text of the report, and
every other place is as it was.  If it fails, all files are as they were, unless the report was
finished, its file could be opened, and an integer in the report is too long.  Exactly then the run
fails with this integer, and leaves an empty file at the destination. -/
theorem report_written_whole_or_spoilt {settings : Entries} {files : Value}
    (hsaved : Saves settings s files) (hjson : files.IsJson) :
    ((write settings).perform s).2.store = s.store ∧
    ((write settings).perform s).2.log.inserts = s.log.inserts ∧
    (∃ asked, asked <+: listed files ∧
      ((write settings).perform s).2.log.requests =
        s.log.requests ++ asked.map (fun entry => tagsRequest entry.1) ∧
      (((write settings).perform s).1 = .ok () ∨ IsSpoilt settings files s →
        asked = listed files)) ∧
    (¬ IsSpoilt settings files s → ∀ failure, ((write settings).perform s).1 = .error failure →
      ((write settings).perform s).2.files = s.files) ∧
    (IsSpoilt settings files s → ((write settings).perform s).1 = .error .longInteger ∧
      ∃ destination place, setting "dest" settings = .ok destination ∧
        s.files.LeadsTo (String.ofList destination.displayed) place ∧
        ((write settings).perform s).2.files.lookup? place = some (.bytes []) ∧
        ∀ other, other ≠ place →
          ((write settings).perform s).2.files.lookup? other = s.files.lookup? other) ∧
    (((write settings).perform s).1 = .ok () →
      ∃ report t destination place text, (build fetchTags files).perform s = (.ok report, t) ∧
        setting "dest" settings = .ok destination ∧
        s.files.LeadsTo (String.ofList destination.displayed) place ∧
        Json.write (Report.toValue Label.name report) = .ok text ∧
        ((write settings).perform s).2.files.lookup? place = some (.bytes (Text.encodeUtf8 text)) ∧
        ∀ other, other ≠ place →
          ((write settings).perform s).2.files.lookup? other = s.files.lookup? other) := by
  rcases hbuild : (build fetchTags files).perform s with ⟨outcome, t⟩
  obtain ⟨hstore, hinserts, hfiles⟩ := build_leaves hbuild
  obtain ⟨asked, hasked, hrequests, hall⟩ := exists_asked hjson hbuild
  by_cases hclosed : ∀ report t destination, ¬ Opens settings files s report t destination
  · obtain ⟨failure, hrun⟩ := perform_write_of_not_opens hsaved hjson hbuild hclosed
    have hfine : ¬ IsSpoilt settings files s := by
      rintro ⟨report, t, destination, hopens, -⟩
      exact hclosed report t destination hopens
    rw [hrun]
    refine ⟨hstore, hinserts, ⟨asked, hasked, hrequests, ?_⟩, fun _ _ _ => hfiles,
      fun hspoilt => absurd hspoilt hfine, fun hok => (by cases hok)⟩
    rintro (hok | hspoilt)
    · cases hok
    · exact absurd hspoilt hfine
  · push Not at hclosed
    obtain ⟨report, t', destination, hopens⟩ := hclosed
    obtain ⟨rfl, rfl⟩ := Prod.mk.inj (hbuild.symm.trans hopens.built)
    obtain ⟨written, hwritten, hrun⟩ := hopens.exists_written hsaved hjson
    obtain ⟨place, hleads, hplace, hothers⟩ := Files.lookup?_of_writeText hwritten
    rw [hrun]
    refine ⟨hstore, hinserts, ⟨asked, hasked, hrequests, fun _ => hall rfl⟩, ?_, ?_, ?_⟩
    · intro hfine failure hfailed
      have hshown : (Report.toValue Label.name report).isShowable = true :=
        Bool.of_not_eq_false fun hlong => hfine ⟨report, t, destination, hopens, hlong⟩
      rw [if_pos hshown] at hfailed
      cases hfailed
    · intro hspoilt
      have hlong := Bool.eq_false_iff.mp (hspoilt.of_opens hopens)
      have hnothing : Text.encodeUtf8 [] = [] := by decide +kernel
      rw [textLeft, if_neg hlong, hnothing] at hplace
      rw [if_neg hlong]
      exact ⟨rfl, destination, place, hopens.given, hleads, hplace, hothers⟩
    · intro hok
      have hshown : (Report.toValue Label.name report).isShowable = true := by
        by_contra hlong
        rw [if_neg hlong] at hok
        cases hok
      rw [textLeft, if_pos hshown] at hplace
      exact ⟨report, t, destination, place, _, rfl, hopens.given, hleads,
        ((writable_of_build hjson hbuild).hasForm _).write_ok.mpr ⟨hshown, rfl⟩, hplace, hothers⟩

/-- The law at a file with one workflow: its tags are asked for, and the text of its report is at
the destination. -/
theorem openWorkflow_written_whole :
    ((write hereToOut).perform (openSession 1)).1 = .ok () ∧
    ((write hereToOut).perform (openSession 1)).2.log.requests = [tagsRequest (.text "own/repo")] ∧
    ∃ place text, (openSession 1).files.LeadsTo "out.json" place ∧
      ((write hereToOut).perform (openSession 1)).2.files.lookup? place =
        some (.bytes (Text.encodeUtf8 text)) := by
  have hok : ((write hereToOut).perform (openSession 1)).1.isOk = true := by decide +kernel
  obtain ⟨⟨⟩, s', hrun⟩ := exists_of_isOk hok
  have hreturns : ((write hereToOut).perform (openSession 1)).1 = .ok () := congrArg Prod.fst hrun
  obtain ⟨-, -, ⟨asked, -, hrequests, hall⟩, -, -, hwritten⟩ :=
    report_written_whole_or_spoilt (s := openSession 1) (saves_here rfl) (isJson_openWorkflow 1)
  obtain ⟨report, t, destination, place, text, -, hdestination, hleads, -, hplace, -⟩ :=
    hwritten hreturns
  obtain rfl : Value.text "out.json" = destination := Except.ok.inj hdestination
  rw [hall (.inl hreturns)] at hrequests
  exact ⟨hreturns, hrequests, place, text, hleads, hplace⟩

/-- Whether a file has no content. -/
def isBlank : File → Bool
  | .bytes content => content.isEmpty
  | _ => false

/-- A run can fail and still change a file: with a rank that is too long, there is no file at the
destination before, and an empty one behind. -/
theorem long_rank_empties_file :
    Saves hereToOut (openSession Text.leastLong)
      (.map .plain (oneFile (openWorkflow Text.leastLong))) ∧
    (Value.map .plain (oneFile (openWorkflow Text.leastLong))).IsJson ∧
    ((write hereToOut).perform (openSession Text.leastLong)).1.isOk = false ∧
    ((openSession Text.leastLong).files.lookup? ["out.json"]).isNone = true ∧
    (((write hereToOut).perform (openSession Text.leastLong)).2.files.lookup? ["out.json"]).any
      isBlank = true :=
  ⟨saves_here rfl, isJson_openWorkflow _, by decide +kernel, by decide +kernel, by decide +kernel⟩

end Report

end WorkflowAudit
