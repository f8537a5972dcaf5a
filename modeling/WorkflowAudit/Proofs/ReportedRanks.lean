import WorkflowAudit.Proofs.Independence

/-! # The rank that is reported

A workflow is entered once for each of its triggers, under one name, so each entry takes the place
of the one before.  What stays is the type and the rank of the trigger that comes last, whatever the
others are: a report tells the greatest rank of a workflow when the last trigger happens to have it.

Neither the other workflows of the file nor the way in which the tags are fetched matters
(`entryUnder_of_place`), so the same holds of stored and of written reports, as `last_rank_reported`
says.
-/
namespace WorkflowAudit
namespace Report

open Audit

variable {report : Report} {file name workflow : Value} {earlier later : List Value}
    {ranks : List Int}

/-! ## The ranks of a workflow -/

/-- The triggers of a workflow are a list, and their ranks are numbers. -/
def HasRanks (workflow : Value) (ranks : List Int) : Prop :=
  ∃ kind events, workflow.field "events" = .ok (.list kind events) ∧
    (events.map fun event => event.field "security_rank") = ranks.map fun rank => .ok (.int rank)

theorem HasRanks.hasTrigger (h : HasRanks workflow ranks) (hne : ranks ≠ []) :
    HasTrigger workflow := by
  obtain ⟨kind, events, hevents, hranks⟩ := h
  cases events with
  | nil => exact absurd (List.map_eq_nil_iff.mp hranks.symm) hne
  | cons event more => exact ⟨_, event, more, hevents, rfl⟩

/-- The last trigger has the last rank. -/
theorem HasRanks.exists_last {trigger : Value × Value} (h : HasRanks workflow ranks)
    (hlast : IsLastTrigger workflow trigger) :
    ∃ rank, ranks.getLast? = some rank ∧ trigger.2 = .int rank := by
  obtain ⟨kind, events, hevents, hranks⟩ := h
  obtain ⟨events', list, last, hevents', hlist, hlast, -, hrank⟩ := hlast
  obtain rfl : Value.list kind events = events' := Except.ok.inj (hevents.symm.trans hevents')
  obtain rfl : events = list := pure_ok.mp hlist
  have hsame := congrArg List.getLast? hranks
  rw [List.getLast?_map, List.getLast?_map, hlast, Option.map_some, hrank] at hsame
  obtain ⟨rank, hfound, hvalue⟩ := Option.map_eq_some_iff.mp hsame.symm
  exact ⟨rank, hfound, (Except.ok.inj hvalue).symm⟩

/-! ## The rank in an entry -/

/-- The entry of a workflow tells a rank. -/
def TellsRank (report : Report) (file name : Value) (rank : Int) : Prop :=
  ∃ entry, entryUnder file name report = some entry ∧ entry.trigger.2 = .int rank

theorem TellsRank.unique {rank rank' : Int} (h : TellsRank report file name rank)
    (h' : TellsRank report file name rank') : rank = rank' := by
  obtain ⟨entry, hentry, hrank⟩ := h
  obtain ⟨entry', hentry', hrank'⟩ := h'
  obtain rfl : entry = entry' := Option.some.inj (hentry.symm.trans hentry')
  exact Value.int.inj (hrank.symm.trans hrank')

/-- The entry of a workflow tells a rank that none of its triggers exceeds. -/
def TellsGreatest (report : Report) (file name : Value) (ranks : List Int) : Prop :=
  ∃ rank, TellsRank report file name rank ∧ ∀ other ∈ ranks, other ≤ rank

/-- What the entry of a workflow tells of its ranks. -/
structure TellsLast (report : Report) (file name : Value) (ranks : List Int) : Prop where
  exists_last : ∃ rank, ranks.getLast? = some rank ∧ TellsRank report file name rank
  greatest_iff : TellsGreatest report file name ranks ↔ ranks.max? = ranks.getLast?

/-- The last rank is the greatest one exactly when no other exceeds it. -/
theorem tellsLast_of_rank {rank : Int} (hlast : ranks.getLast? = some rank)
    (hrank : TellsRank report file name rank) : TellsLast report file name ranks := by
  refine ⟨⟨rank, hlast, hrank⟩, ?_⟩
  rw [hlast, List.max?_eq_some_iff]
  constructor
  · rintro ⟨told, htold, hall⟩
    obtain rfl := hrank.unique htold
    exact ⟨List.mem_of_getLast? hlast, hall⟩
  · rintro ⟨-, hall⟩
    exact ⟨rank, hrank, hall⟩

/-! ## Stored and written reports -/

/-- A workflow with a trigger that shares its name with no other of its file has an entry with its
last trigger, whichever tags its neighbours were assessed with. -/
theorem entryUnder_of_place (place : Place report file earlier workflow later)
    (htrigger : HasTrigger workflow) (hname : workflow.field "name" = .ok name)
    (hapart : ∀ other ∈ earlier ++ later, Apart workflow other) :
    ∃ trigger, IsLastTrigger workflow trigger ∧
      entryUnder file name report = some ⟨trigger, place.reading.issues place.tags⟩ := by
  obtain ⟨trigger, hlast, hafter⟩ :=
    entered_of_hasTrigger htrigger place.reads place.entered_eq place.after_eq
  obtain rfl : place.reading.name = name := Except.ok.inj (place.reads.name.symm.trans hname)
  have hfresh : Entries.Fresh place.reading.name place.before := fresh_of_apart
    place.earlier_assembled (fun other hother =>
      (hapart other (List.mem_append_left _ hother)).2) hname
  -- the workflows behind it have other names, and leave the entry alone
  have hkept : Entries.lookup? place.reading.name place.fileReport =
      Entries.lookup? place.reading.name place.after := by
    refine lookup?_of_assembled place.later_assembled (fun other hother name' hname' => ?_)
      fun k hk hequal => ?_
    · obtain ⟨hne, hne'⟩ := hapart other (List.mem_append_right _ hother)
      exact ⟨hne _ name' hname hname', hne' name' _ hname' hname⟩
    · rw [hafter] at hk
      rcases Entries.mem_keys_insert hk with hk | rfl
      · rw [hfresh k hk] at hequal
        cases hequal
      · rfl
  refine ⟨trigger, hlast, ?_⟩
  rw [entryUnder, place.found, Option.bind_some, hkept, hafter, Entries.lookup?_insert_self]

theorem tellsLast_of_build {tagsFor : Value → Audit Value} {kind : MapKind} {entries : Entries}
    {listed : Value} {s s' : Session} (hdistinct : Entries.Distinct entries)
    (h : (build tagsFor (.map kind entries)).perform s = (.ok report, s'))
    (hfile : (file, listed) ∈ entries) (hlisted : listed.items = .ok (earlier ++ workflow :: later))
    (hname : workflow.field "name" = .ok name)
    (hapart : ∀ other ∈ earlier ++ later, Apart workflow other)
    (hranks : HasRanks workflow ranks) (hne : ranks ≠ []) : TellsLast report file name ranks := by
  obtain ⟨place⟩ := exists_place hdistinct (build_ok hdistinct h) hfile hlisted
  obtain ⟨trigger, hlast, hentry⟩ :=
    entryUnder_of_place place (hranks.hasTrigger hne) hname hapart
  obtain ⟨rank, hrank, htrigger⟩ := hranks.exists_last hlast
  exact tellsLast_of_rank hrank ⟨_, hentry, htrigger⟩

/-- **The rank of the last trigger is reported.**  Let the triggers of a workflow be a list with
numbers for ranks, and let no other workflow of its file have its name.  In every report that is
stored, and in every report that is written, its entry tells the rank of its last trigger; so it
tells a rank that no trigger exceeds exactly when the last one is the greatest. -/
theorem last_rank_reported {kind : MapKind} {entries : Entries} {listed : Value}
    (hdistinct : Entries.Distinct entries) (hfile : (file, listed) ∈ entries)
    (hlisted : listed.items = .ok (earlier ++ workflow :: later))
    (hname : workflow.field "name" = .ok name)
    (hapart : ∀ other ∈ earlier ++ later, Apart workflow other)
    (hranks : HasRanks workflow ranks) (hne : ranks ≠ []) :
    (∀ id repository content s s',
      (store (.map kind entries) id repository).perform s = (.ok content, s') →
        ∃ report, content = Report.toValue Label.description report ∧
          TellsLast report file name ranks) ∧
    (∀ settings s s', Saves settings s (.map kind entries) →
      (write settings).perform s = (.ok (), s') →
        ∃ report destination text, setting "dest" settings = .ok destination ∧
          Json.write (Report.toValue Label.name report) = .ok text ∧
          s.files.writeText (String.ofList destination.displayed) text = .ok s'.files ∧
          TellsLast report file name ranks) := by
  refine ⟨fun id repository content s s' h => ?_, fun settings s s' hsaved h => ?_⟩
  · obtain ⟨report, s₁, hbuild, hcontent, -⟩ := perform_store_ok.mp h
    exact ⟨report, hcontent,
      tellsLast_of_build hdistinct hbuild hfile hlisted hname hapart hranks hne⟩
  · obtain ⟨report, s₁, destination, text, hbuild, hdestination, htext, hwritten⟩ :=
      exists_build_of_write hsaved h
    exact ⟨report, destination, text, hdestination, htext, hwritten,
      tellsLast_of_build hdistinct hbuild hfile hlisted hname hapart hranks hne⟩

/-! ### A last trigger with a lower rank -/

/-- A workflow without jobs that is triggered by issues, which rank higher, and then by pushes. -/
def issuesThenPush : Value :=
  .record [("name", .text "wf"),
    ("events", .plainList [.record [("type", .text "issues"), ("security_rank", .int 3)],
      .record [("type", .text "push"), ("security_rank", .int 1)]]),
    ("permissions", .text "None"), ("jobs", .record [])]

/-- Its file, with another workflow behind it. -/
def rankedFile : Entries :=
  [(.text "own/repo", .plainList [issuesThenPush, bareWorkflow (.text "other") "job"])]

/-- A session that knows the tags of the repository, from its store and from the service, and has
the file saved. -/
def rankedSession : Session :=
  { store := untaggedSession.store
    answers := [("/repos/own/repo/tags", [⟨200, "[]"⟩, ⟨200, "[]"⟩])]
    files := [(["savedDictWfs.dat"], .saved (.map .plain rankedFile))] }

/-- The law at a workflow whose last trigger has the lower rank, in a stored and in a written
report: both are made, and both tell the lower rank. -/
theorem lower_last_rank_reported :
    (∃ content s' report, (store (.map .plain rankedFile) (.text "id1") (.text "own/repo")).perform
        rankedSession = (.ok content, s') ∧
      content = Report.toValue Label.description report ∧
      TellsLast report (.text "own/repo") (.text "wf") [3, 1]) ∧
    (∃ s' report, (write hereToOut).perform rankedSession = (.ok (), s') ∧
      TellsLast report (.text "own/repo") (.text "wf") [3, 1]) := by
  have hapart : ∀ other ∈ [] ++ [bareWorkflow (.text "other") "job"],
      Apart issuesThenPush other := by
    intro other hother
    obtain rfl := List.mem_singleton.mp hother
    exact apart_of_names rfl rfl (by decide) (by decide)
  have hranks : HasRanks issuesThenPush [3, 1] := ⟨_, _, rfl, rfl⟩
  obtain ⟨hstore, hwrite⟩ := @last_rank_reported _ _ _ _ _ _ .plain _ _
    (Entries.distinct_singleton _ _ : Entries.Distinct rankedFile) List.mem_cons_self rfl rfl hapart
    hranks (List.cons_ne_nil _ _)
  constructor
  · have hok : ((store (.map .plain rankedFile) (.text "id1") (.text "own/repo")).perform
        rankedSession).1.isOk = true := by decide +kernel
    obtain ⟨content, s', hrun⟩ := exists_of_isOk hok
    obtain ⟨report, hcontent, htells⟩ := hstore _ _ _ _ _ hrun
    exact ⟨content, s', report, hrun, hcontent, htells⟩
  · have hok : ((write hereToOut).perform rankedSession).1.isOk = true := by decide +kernel
    obtain ⟨⟨⟩, s', hrun⟩ := exists_of_isOk hok
    obtain ⟨report, destination, -, -, -, -, htells⟩ := hwrite _ _ _ (saves_here rfl) hrun
    exact ⟨s', report, hrun, htells⟩

/-- The rank of issues is lost behind that of pushes. -/
theorem higher_rank_lost :
    returns ((store (.map .plain (oneFile issuesThenPush)) (.text "id1") (.text "own/repo")).perform
        untaggedSession).1
      (Report.toValue Label.description
        [(.text "own/repo", [(.text "wf", ⟨(.text "push", .int 1), []⟩)])]) = true ∧
    ¬ TellsGreatest [(.text "own/repo", [(.text "wf", ⟨(.text "push", .int 1), []⟩)])]
      (.text "own/repo") (.text "wf") [3, 1] := by
  refine ⟨by decide +kernel, ?_⟩
  rintro ⟨rank, ⟨entry, hentry, hrank⟩, hall⟩
  obtain rfl := Option.some.inj hentry
  obtain rfl := Value.int.inj hrank
  exact absurd (hall 3 List.mem_cons_self) (by decide)

end Report

end WorkflowAudit
