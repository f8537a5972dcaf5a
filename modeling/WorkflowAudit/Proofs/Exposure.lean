import WorkflowAudit.Proofs.Assessment

/-! # Flagged lines in a report

The steps of a workflow can have any number of flagged lines.  A report looks at one of them, the
first line of the first step that has some: `Report.exposures` is made from it alone.  A line behind
it is lost, whatever it mentions, unless it reads the same.

`flagged_line_reported_iff_first` says so of every stored report, for files in which each workflow
gets an entry of its own: the names of its workflows differ, and each has a trigger.
-/
namespace WorkflowAudit
namespace Report

open Audit Findings

/-! ## An entry for each workflow -/

/-- A workflow has a trigger. -/
def HasTrigger (workflow : Value) : Prop :=
  ∃ events event more, workflow.field "events" = .ok events ∧
    eventList events = .ok (event :: more)

/-- The type and the rank of the last trigger of a workflow. -/
def IsLastTrigger (workflow : Value) (trigger : Value × Value) : Prop :=
  ∃ events list last, workflow.field "events" = .ok events ∧ eventList events = .ok list ∧
    list.getLast? = some last ∧ IsTrigger trigger last

/-- An assessed workflow that has a trigger gets an entry with its last trigger, its issues and no
others. -/
theorem entered_of_hasTrigger {tags workflow : Value} {r : Reading}
    {before entered after : FileReport} (htrigger : HasTrigger workflow) (hreads : Reads workflow r)
    (hentered : enter r.name r.events before = .ok entered)
    (hadded : addIssues r.name (r.issues tags) entered = .ok after) :
    ∃ trigger, IsLastTrigger workflow trigger ∧
      after = Entries.insert r.name ⟨trigger, r.issues tags⟩ before := by
  obtain ⟨events, event, more, hevents, hlist⟩ := htrigger
  obtain rfl : r.events = events := Except.ok.inj (hreads.events.symm.trans hevents)
  obtain ⟨list, hlist', hcases⟩ := enter_ok hentered
  obtain rfl : event :: more = list := Except.ok.inj (hlist.symm.trans hlist')
  rcases hcases with ⟨hnil, -⟩ | ⟨trigger, last, hlast, htrigger, hkey, rfl⟩
  · cases hnil
  · rw [addIssues_insert hkey] at hadded
    exact ⟨trigger, ⟨r.events, _, last, hevents, hlist, hlast, htrigger⟩,
      (Except.ok.inj hadded).symm⟩

/-- Two workflows are named differently. -/
def NamedApart (workflow workflow' : Value) : Prop :=
  ∀ name name', workflow.field "name" = .ok name → workflow'.field "name" = .ok name' →
    name.equal name' = false

/-- An entry of a report holds what was read off a workflow. -/
def EntryOf (workflow : Value) (found : Value × WorkflowReport) : Prop :=
  ∃ r tags, Reads workflow r ∧ found.1 = r.name ∧ found.2.issues = r.issues tags

theorem entered_of_assembled {report report' : FileReport} {workflows : List Value}
    (h : Assembled report workflows report')
    (htriggers : ∀ workflow ∈ workflows, HasTrigger workflow) :
    Entries.Entered EntryOf report workflows report' := by
  induction h with
  | nil report => exact .nil report
  | @cons tags workflow rest report mid report' hassess _ ih =>
    obtain ⟨r, entered, hreads, hentered, hadded, -⟩ := assess_ok hassess
    obtain ⟨trigger, -, rfl⟩ :=
      entered_of_hasTrigger (htriggers workflow List.mem_cons_self) hreads hentered hadded
    exact .cons ⟨r, tags, hreads, rfl, rfl⟩
      (ih fun w hw => htriggers w (List.mem_cons_of_mem _ hw))

theorem keysDiffer_of_namedApart {workflows : List Value} (h : workflows.Pairwise NamedApart) :
    Entries.KeysDiffer EntryOf workflows := by
  refine List.Pairwise.imp ?_ h
  rintro workflow workflow' hapart found found' ⟨r, tags, hreads, hname, -⟩
    ⟨r', tags', hreads', hname', -⟩
  rw [hname, hname']
  exact hapart r.name r'.name hreads.name hreads'.name

/-! ## The first flagged line -/

/-- The line of a flagged entry. -/
def lineOf (flagged : Value) : Except Failure (List Char) := do
  (← flagged.itemNamed "line").joined

theorem joinFrom_ofChars (position : Nat) (chars : List Char) :
    Value.joined.joinFrom position (chars.map fun c => .ofChars [c]) = .ok chars := by
  induction chars generalizing position with
  | nil => rfl
  | cons c rest ih =>
    rw [List.map_cons, Value.ofChars, Value.joined.joinFrom, ih, String.toList_ofList]
    rfl

/-- The line of an entry that gives it as a text. -/
theorem lineOf_text (line : String) :
    lineOf (.record [("line", .text line)]) = .ok line.toList :=
  joinFrom_ofChars 0 line.toList

/-- A line is the first one of the first step that has flagged lines. -/
def IsFirstLine (runs : List Value) (line : List Char) : Prop :=
  ∃ run rest flagged, runs = run :: rest ∧ run.item (.int 0) = .ok flagged ∧
    lineOf flagged = .ok line

/-- The exposures of a workflow are those of its first flagged line. -/
theorem mem_exposures {runs : List Value} {exposed : List Issue} (h : exposures runs = .ok exposed)
    {names : List String} {line : List Char} :
    .exposure names line ∈ exposed ↔ IsFirstLine runs line ∧
      (names = mentioned criticalContexts line ∨ names = mentioned criticalSecrets line) := by
  rcases exposures_ok h with ⟨rfl, rfl⟩ | ⟨run, rest, flagged, value, first, rfl, hflagged, hvalue,
    hfirst, rfl⟩
  · constructor
    · intro hmem
      cases hmem
    · rintro ⟨⟨run, rest, flagged, hruns, -⟩, -⟩
      cases hruns
  · -- both exposures are of one line, so all that is left is that there is only one first line
    have hline : lineOf flagged = .ok first := bind_ok.mpr ⟨value, hvalue, hfirst⟩
    have hunique : IsFirstLine (run :: rest) line ↔ line = first := by
      constructor
      · rintro ⟨run', rest', flagged', hruns, hflagged', hline'⟩
        obtain ⟨rfl, rfl⟩ := List.cons.inj hruns
        obtain rfl : flagged = flagged' := Except.ok.inj (hflagged.symm.trans hflagged')
        exact Except.ok.inj (hline'.symm.trans hline)
      · rintro rfl
        exact ⟨run, rest, flagged, rfl, hflagged, hline⟩
    rw [hunique]
    simp only [List.mem_cons, List.not_mem_nil, or_false, Issue.exposure.injEq]
    constructor
    · rintro (⟨rfl, rfl⟩ | ⟨rfl, rfl⟩)
      · exact ⟨rfl, .inl rfl⟩
      · exact ⟨rfl, .inr rfl⟩
    · rintro ⟨rfl, rfl | rfl⟩
      · exact .inl ⟨rfl, rfl⟩
      · exact .inr ⟨rfl, rfl⟩

/-- Permissions and uses of actions give labels only. -/
theorem exposure_mem_issues {r : Reading} {tags : Value} {names : List String} {line : List Char} :
    .exposure names line ∈ r.issues tags ↔ .exposure names line ∈ r.exposed := by
  have hpermissions : .exposure names line ∉ permissionIssues r.permissions := by
    simp [permissionIssues]
  have huses : .exposure names line ∉ r.uses.flatMap (useIssues tags) := by
    rw [List.mem_flatMap]
    rintro ⟨use, -, hmem⟩
    unfold useIssues at hmem
    split at hmem
    · simp at hmem
    · cases hmem
  simp [Reading.issues, hpermissions, huses]

/-- All that a line can expose, by name. -/
def critical : List (String × String) := criticalContexts ++ criticalSecrets

/-- A line mentions something critical. -/
def Mentions (line : List Char) (c : String × String) : Prop :=
  c ∈ critical ∧ Text.occursIn c.2.toList line = true

theorem mem_mentioned {list : List (String × String)} {c : String × String} {line : List Char}
    (hc : c ∈ list) (h : Text.occursIn c.2.toList line = true) : c.1 ∈ mentioned list line :=
  List.mem_map_of_mem (List.mem_filter.mpr ⟨hc, h⟩)

/-- A line stands among issues together with a name. -/
def Reported (issues : List Issue) (name : String) (line : List Char) : Prop :=
  ∃ names, name ∈ names ∧ .exposure names line ∈ issues

/-- A line that mentions something critical is reported with it exactly when it is the first one. -/
theorem reported_iff_isFirstLine {workflow : Value} {r : Reading} (hreads : Reads workflow r)
    (tags : Value) {c : String × String} {line : List Char} (h : Mentions line c) :
    Reported (r.issues tags) c.1 line ↔ IsFirstLine r.runs line := by
  unfold Reported
  simp only [exposure_mem_issues, mem_exposures hreads.exposed]
  constructor
  · rintro ⟨names, -, hfirst, -⟩
    exact hfirst
  · intro hfirst
    obtain ⟨hc, hoccurs⟩ := h
    rcases List.mem_append.mp hc with hc | hc
    · exact ⟨_, mem_mentioned hc hoccurs, hfirst, .inl rfl⟩
    · exact ⟨_, mem_mentioned hc hoccurs, hfirst, .inr rfl⟩

/-! ## Stored reports -/

/-- A line of a step that has flagged lines. -/
def FlaggedLine (runs : List Value) (line : List Char) : Prop :=
  ∃ run ∈ runs, ∃ items, run.items = .ok items ∧ ∃ flagged ∈ items, lineOf flagged = .ok line

/-- What becomes of the flagged lines of a workflow in its entry. -/
structure LinesReported (runs : List Value) (issues : List Issue) : Prop where
  /-- A line that mentions something critical is reported if and only if it reads like the first. -/
  reported_iff : ∀ line c, Mentions line c → (Reported issues c.1 line ↔ IsFirstLine runs line)
  /-- No flagged line is lost if and only if all that mention something critical read the same. -/
  nothing_lost_iff :
    (∀ line, FlaggedLine runs line → ∀ c, Mentions line c → Reported issues c.1 line) ↔
      ∀ line, FlaggedLine runs line → (∃ c, Mentions line c) → IsFirstLine runs line

theorem linesReported_of_reads {workflow : Value} {r : Reading} (hreads : Reads workflow r)
    (tags : Value) : LinesReported r.runs (r.issues tags) := by
  refine ⟨fun line c hc => reported_iff_isFirstLine hreads tags hc, ⟨fun h => ?_, fun h => ?_⟩⟩
  · rintro line hline ⟨c, hc⟩
    exact (reported_iff_isFirstLine hreads tags hc).mp (h line hline c hc)
  · intro line hline c hc
    exact (reported_iff_isFirstLine hreads tags hc).mpr (h line hline ⟨c, hc⟩)

/-- **A flagged line is reported exactly when it is the first one.**  In a stored report each
workflow has its own entry, when the names of the workflows of a file differ and each has a trigger.
Of the flagged lines that mention something critical, the entry has those that read like the first
line of the first flagged step, and it loses all others. -/
theorem flagged_line_reported_iff_first {kind : MapKind} {entries : Entries}
    {id repository content : Value} {s s' : Session} (hdistinct : Entries.Distinct entries)
    (hworkflows : ∀ file listed workflows, (file, listed) ∈ entries →
      listed.items = .ok workflows →
        workflows.Pairwise NamedApart ∧ ∀ workflow ∈ workflows, HasTrigger workflow)
    (h : (store (.map kind entries) id repository).perform s = (.ok content, s')) :
    ∃ report, content = Report.toValue Label.description report ∧
      ∀ file listed workflows workflow, (file, listed) ∈ entries → listed.items = .ok workflows →
        workflow ∈ workflows →
          ∃ fileReport name entry runs, Entries.lookup? file report = some fileReport ∧
            workflow.field "name" = .ok name ∧ Entries.lookup? name fileReport = some entry ∧
            flaggedRuns workflow = .ok runs ∧ LinesReported runs entry.issues := by
  obtain ⟨report, s₁, hbuild, hcontent, -⟩ := perform_store_ok.mp h
  refine ⟨report, hcontent, fun file listed workflows workflow hfile hlisted hworkflow => ?_⟩
  obtain ⟨hnames, htriggers⟩ := hworkflows file listed workflows hfile hlisted
  obtain ⟨fileReport, workflows', hfound, hitems, hassembled⟩ :=
    exists_fileReport hdistinct (build_ok hdistinct hbuild) hfile
  obtain rfl : workflows = workflows' := Except.ok.inj (hlisted.symm.trans hitems)
  -- every workflow is entered, and under a name of its own, so its entry is there at the end
  have hentered := entered_of_assembled hassembled htriggers
  obtain ⟨name, entry, ⟨r, tags, hreads, hname, hissues⟩, hlookup⟩ :=
    hentered.exists_lookup? (keysDiffer_of_namedApart hnames) hworkflow
  obtain rfl : name = r.name := hname
  have hlines := linesReported_of_reads hreads tags
  rw [← hissues] at hlines
  exact ⟨fileReport, r.name, entry, r.runs, hfound, hreads.name, hlookup, hreads.runs, hlines⟩

/-! ### Two flagged lines in one step -/

/-- A line that mentions the actor. -/
def actorLine : String := "echo $\x7b\x7b github.actor \x7d\x7d"

/-- A line that mentions the title of an issue. -/
def titleLine : String := "echo $\x7b\x7b github.event.issue.title \x7d\x7d"

/-- A workflow with one step, in which both lines are flagged. -/
def twoLineWorkflow : Value :=
  .record [("name", .text "wf"),
    ("events", .plainList [.record [("type", .text "push"), ("security_rank", .int 1)]]),
    ("permissions", .text "None"),
    ("jobs", .record [("job", .record [("permissions", .text "read"),
      ("steps", .plainList [.record [("security", .record [("runs", .plainList
        [.record [("line", .text actorLine)], .record [("line", .text titleLine)]])])]])])])]

/-- A session that knows that the repository has no tags. -/
def untaggedSession : Session :=
  { store :=
    [(Release.tagsCache, [.record [("repo", .text "own/repo"), ("tags", .plainList [])]])] }

/-- The law at a step with two flagged lines: the first is reported, the second is lost. -/
theorem second_flagged_line_lost :
    ∃ content s' report fileReport entry,
      (store (.map .plain (oneFile twoLineWorkflow)) (.text "id1") (.text "own/repo")).perform
        untaggedSession = (.ok content, s') ∧
      content = Report.toValue Label.description report ∧
      Entries.lookup? (.text "own/repo") report = some fileReport ∧
      Entries.lookup? (.text "wf") fileReport = some entry ∧
      Reported entry.issues "ACTOR" actorLine.toList ∧
      ¬ Reported entry.issues "ISSUE_TITLE" titleLine.toList := by
  have hok : ((store (.map .plain (oneFile twoLineWorkflow)) (.text "id1")
      (.text "own/repo")).perform untaggedSession).1.isOk = true := by decide +kernel
  obtain ⟨content, s', hrun⟩ := exists_of_isOk hok
  have hdistinct : Entries.Distinct (oneFile twoLineWorkflow) := List.pairwise_singleton _ _
  have hworkflows : ∀ file listed workflows, (file, listed) ∈ oneFile twoLineWorkflow →
      listed.items = .ok workflows →
        workflows.Pairwise NamedApart ∧ ∀ workflow ∈ workflows, HasTrigger workflow := by
    intro file listed workflows hfile hlisted
    obtain ⟨rfl, rfl⟩ := Prod.mk.inj (List.mem_singleton.mp hfile)
    obtain rfl := pure_ok.mp hlisted
    refine ⟨List.pairwise_singleton _ _, fun workflow hworkflow => ?_⟩
    obtain rfl := List.mem_singleton.mp hworkflow
    exact ⟨_, _, _, rfl, rfl⟩
  obtain ⟨report, hcontent, hentries⟩ := flagged_line_reported_iff_first hdistinct hworkflows hrun
  obtain ⟨fileReport, name, entry, runs, hfound, hname, hlookup, hruns, hlines⟩ :=
    hentries _ _ _ _ List.mem_cons_self rfl List.mem_cons_self
  obtain rfl : .text "wf" = name := Except.ok.inj hname
  refine ⟨content, s', report, fileReport, entry, hrun, hcontent, hfound, hlookup, ?_, ?_⟩
  · refine (hlines.reported_iff actorLine.toList ("ACTOR", "github.actor") ?_).mpr ?_
    · exact ⟨by decide, by decide +kernel⟩
    · obtain rfl := Except.ok.inj hruns
      exact ⟨_, _, _, rfl, rfl, lineOf_text actorLine⟩
  · have hmentions : Mentions titleLine.toList ("ISSUE_TITLE", "github.event.issue.title") :=
      ⟨by decide, by decide +kernel⟩
    rw [hlines.reported_iff titleLine.toList _ hmentions]
    obtain rfl := Except.ok.inj hruns
    rintro ⟨run, rest, flagged, hfirst, hitem, hline⟩
    cases hfirst
    cases hitem
    rw [lineOf_text, Except.ok.injEq] at hline
    exact absurd hline (by decide +kernel)

/-- A flagged line behind another one is missing from the report. -/
theorem report_of_two_lines :
    returns ((store (.map .plain (oneFile twoLineWorkflow)) (.text "id1")
        (.text "own/repo")).perform untaggedSession).1
      (Report.toValue Label.description [(.text "own/repo", [(.text "wf", ⟨(.text "push", .int 1),
        [.exposure ["ACTOR"] actorLine.toList, .exposure [] actorLine.toList]⟩)])]) = true := by
  decide +kernel

end Report

end WorkflowAudit
