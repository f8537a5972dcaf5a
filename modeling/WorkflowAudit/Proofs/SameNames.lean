import WorkflowAudit.Proofs.Equality
import WorkflowAudit.Proofs.Independence

/-! # Workflows of the same name

The workflows of a file are entered under their names, and one without a name under null.  A later
workflow of the same name takes the place of an earlier one, whose issues are lost: what is left of
a file are the issues of its *lasting* workflows, those that no workflow of the same name follows.

Each workflow alone would have its issues reported, in the same session.  So
`lasting_workflows_keep_their_issues` compares the report of a file with those: it has the issues of
the lasting workflows, and all issues only if those that do not last have none.

Names are compared by what they mean, and the keys that stay are not those of the workflows that
stay (the first `1` keeps its place for a later `1.0`).  That this makes no difference is what
equality being an equivalence is needed for.
-/
namespace WorkflowAudit

namespace Entries

variable {α : Type}

/-! ## Entries that last -/

/-- Puts entries in, one after the other. -/
def putAll (entries pairs : List (Value × α)) : List (Value × α) :=
  pairs.foldl (fun entries pair => insert pair.1 pair.2 entries) entries

/-- Whether no entry to come has a given key. -/
def spared (pairs : List (Value × α)) (key : Value) : Bool :=
  pairs.all fun pair => !key.equal pair.1

/-- The entries that none of the same key follows. -/
def lasting : List (Value × α) → List (Value × α)
  | [] => []
  | (key, value) :: rest => if spared rest key then (key, value) :: lasting rest else lasting rest

/-- Of the values that a condition on their keys selects, an insertion drops the one it replaces and
adds its own. -/
theorem perm_filter_insert {key : Value} (value : α) {entries : List (Value × α)} {P : Value → Bool}
    (hP : ∀ k ∈ keys entries, k.equal key = true → P k = P key)
    (honce : (keys entries).Pairwise fun k k' => k.equal key = true → k'.equal key = false) :
    (((insert key value entries).filter fun e => P e.1).map (·.2)).Perm
      (((entries.filter fun e => P e.1 && !e.1.equal key).map (·.2)) ++
        if P key then [value] else []) := by
  induction entries with
  | nil =>
    rw [insert]
    by_cases hkey : P key = true
    · simp [hkey]
    · simp [hkey]
  | cons entry rest ih =>
    obtain ⟨k, old⟩ := entry
    obtain ⟨hPk, hP⟩ := List.forall_mem_cons.mp hP
    obtain ⟨hfirst, honce⟩ := List.pairwise_cons.mp honce
    rw [insert]
    by_cases hk : k.equal key = true
    · -- this is the entry that is replaced, and no other has the key
      have hrest : (rest.filter fun e => P e.1 && !e.1.equal key) = rest.filter fun e => P e.1 := by
        refine List.filter_congr fun e he => ?_
        rw [hfirst e.1 (List.mem_map_of_mem he) hk, Bool.not_false, Bool.and_true]
      rw [if_pos hk]
      simp only [List.filter_cons, hPk hk, hk, Bool.not_true, Bool.and_false, Bool.false_eq_true,
        if_false, hrest]
      by_cases hkey : P key = true
      · simp only [hkey, if_true, List.map_cons]
        exact (List.perm_append_singleton _ _).symm
      · simp only [hkey, if_false, List.append_nil, Bool.false_eq_true]
        exact List.Perm.refl _
    · rw [if_neg hk]
      have hk' : k.equal key = false := by simpa using hk
      simp only [List.filter_cons, hk', Bool.not_false, Bool.and_true]
      by_cases hPk' : P k = true
      · simp only [hPk', if_true, List.map_cons, List.cons_append]
        exact (ih hP honce).cons _
      · simp only [hPk', if_false, Bool.false_eq_true]
        exact ih hP honce

/-- Keys that mean the same are spared together. -/
theorem spared_congr {pairs : List (Value × α)} {k key : Value} (hk : k.wellFormed = true)
    (h : k.equal key = true) : spared pairs k = spared pairs key := by
  have hsame : ∀ w : Value, k.equal w = key.equal w := by
    intro w
    rw [Bool.eq_iff_iff]
    exact ⟨Value.equal_trans (Value.equal_symm hk h), Value.equal_trans h⟩
  simp only [spared, hsame]

/-- What is left after entries were put in: the values that were there and are spared, and those of
the entries that last. -/
theorem putAll_perm {entries pairs : List (Value × α)} (hdistinct : Distinct entries)
    (hentries : ∀ k ∈ keys entries, k.wellFormed = true)
    (hpairs : ∀ k ∈ keys pairs, k.wellFormed = true) :
    ((putAll entries pairs).map (·.2)).Perm
      ((entries.filter fun e => spared pairs e.1).map (·.2) ++ (lasting pairs).map (·.2)) := by
  induction pairs generalizing entries with
  | nil => simp [putAll, spared, lasting]
  | cons pair rest ih =>
    obtain ⟨key, value⟩ := pair
    obtain ⟨hkey, hrest⟩ := List.forall_mem_cons.mp hpairs
    have hinserted : ∀ k ∈ keys (insert key value entries), k.wellFormed = true := by
      intro k hk
      rcases mem_keys_insert hk with hk | rfl
      · exact hentries k hk
      · exact hkey
    have honce : (keys entries).Pairwise fun k k' => k.equal key = true → k'.equal key = false := by
      refine hdistinct.imp_of_mem fun {k k'} _ hk' hne hequal => ?_
      -- a second key that means the same would mean the same as the first
      by_contra hequal'
      have hsame := Value.equal_trans hequal
        (Value.equal_symm (hentries k' hk') (by simpa using hequal'))
      rw [hne] at hsame
      cases hsame
    have hspared : ∀ k, spared ((key, value) :: rest) k = (spared rest k && !k.equal key) := by
      intro k
      rw [spared, List.all_cons, Bool.and_comm]
      rfl
    have hlasting : (lasting ((key, value) :: rest)).map (·.2) =
        (if spared rest key then [value] else []) ++ (lasting rest).map (·.2) := by
      rw [lasting]
      by_cases hkey : spared rest key = true
      · simp only [hkey, if_true, List.map_cons, List.cons_append, List.nil_append]
      · simp only [hkey, if_false, Bool.false_eq_true, List.nil_append]
    rw [hlasting, ← List.append_assoc]
    simp only [hspared]
    refine (ih (distinct_insert hdistinct) hinserted hrest).trans (List.Perm.append_right _ ?_)
    exact perm_filter_insert value (fun k hk h => spared_congr (hentries k hk) h) honce

end Entries

namespace Report

open Audit

variable {repository tags workflow name : Value} {before after : FileReport} {s s' : Session}

/-! ## What a workflow enters -/

/-- Enters a workflow for one of its triggers. -/
def enterFor (name : Value) (report : FileReport) (event : Value) : Except Failure FileReport := do
  enter.enterOne name report (← event.field "type") (← event.field "security_rank")

theorem enterFor_ok {event : Value} :
    enterFor name before event = .ok after ↔ ∃ trigger, IsTrigger trigger event ∧
      name.checkKey = .ok () ∧ after = Entries.insert name ⟨trigger, []⟩ before := by
  constructor
  · intro h
    obtain ⟨type, htype, h⟩ := bind_ok.mp h
    obtain ⟨rank, hrank, h⟩ := bind_ok.mp h
    obtain ⟨⟨⟩, hkey, h⟩ := bind_ok.mp h
    exact ⟨(type, rank), ⟨htype, hrank⟩, hkey, (pure_ok.mp h).symm⟩
  · rintro ⟨trigger, ⟨htype, hrank⟩, hkey, rfl⟩
    exact bind_ok.mpr ⟨_, htype, bind_ok.mpr ⟨_, hrank, bind_ok.mpr ⟨(), hkey, rfl⟩⟩⟩

/-- A workflow that can be entered once can be entered in any report, with the same trigger. -/
theorem enter_anywhere {events event : Value} {more : List Value}
    (h : enter name events before = .ok after) (hlist : eventList events = .ok (event :: more)) :
    name.checkKey = .ok () ∧ ∃ trigger, ∀ report : FileReport,
      enter name events report = .ok (Entries.insert name ⟨trigger, []⟩ report) := by
  have henter : ∀ report, enter name events report =
      (event :: more).foldlM (enterFor name) report := by
    intro report
    rw [enter_eq, hlist]
    rfl
  simp only [henter] at h ⊢
  clear henter hlist
  -- the induction is over the triggers behind the first; a later one replaces what it has entered
  induction more generalizing event before with
  | nil =>
    obtain ⟨mid, hmid, -⟩ := foldlM_ok_cons.mp h
    obtain ⟨trigger, htrigger, hkey, -⟩ := enterFor_ok.mp hmid
    exact ⟨hkey, trigger, fun report =>
      foldlM_ok_cons.mpr ⟨_, enterFor_ok.mpr ⟨trigger, htrigger, hkey, rfl⟩, rfl⟩⟩
  | cons next more ih =>
    obtain ⟨mid, hmid, hrest⟩ := foldlM_ok_cons.mp h
    obtain ⟨trigger, htrigger, hkey, -⟩ := enterFor_ok.mp hmid
    obtain ⟨-, last, hnext⟩ := ih hrest
    refine ⟨hkey, last, fun report =>
      foldlM_ok_cons.mpr ⟨_, enterFor_ok.mpr ⟨trigger, htrigger, hkey, rfl⟩, ?_⟩⟩
    rw [hnext, Entries.insert_insert]

/-- Uses that can be judged add their issues to an entry that is there. -/
theorem foldlM_judge_insert {uses : List Findings.ActionUse} (hkey : name.checkKey = .ok ())
    (hjudged : ∀ use ∈ uses, ∃ verdict, useLabels tags use = .ok verdict) (entry : WorkflowReport)
    (report : FileReport) :
    uses.foldlM (judge name tags) (Entries.insert name entry report) =
      .ok (Entries.insert name
        { entry with issues := entry.issues ++ uses.flatMap (useIssues tags) } report) := by
  induction uses generalizing entry with
  | nil =>
    rw [List.flatMap_nil, List.append_nil]
    rfl
  | cons use rest ih =>
    obtain ⟨⟨verdict, hverdict⟩, hjudged⟩ := List.forall_mem_cons.mp hjudged
    have huse : useIssues tags use = verdict.1.map (Issue.about use.job) := by
      unfold useIssues
      rw [hverdict]
    refine foldlM_ok_cons.mpr ⟨_, bind_ok.mpr ⟨verdict, hverdict, addIssues_insert hkey _ _ _⟩, ?_⟩
    rw [ih hjudged, List.flatMap_cons, huse, ← List.append_assoc]

/-- A workflow comes to the same entry in any report. -/
def EntersAs (tags workflow : Value) (pair : Value × WorkflowReport) : Prop :=
  workflow.field "name" = .ok pair.1 ∧
    ∀ report, assess tags report workflow = .ok (Entries.insert pair.1 pair.2 report)

/-- A workflow with a trigger that can be assessed once can be assessed in any report, whether its
name is taken there or not. -/
theorem exists_entersAs (htrigger : HasTrigger workflow)
    (h : assess tags before workflow = .ok after) : ∃ pair, EntersAs tags workflow pair := by
  obtain ⟨r, entered, hreads, hentered, -, hjudged⟩ := assess_ok h
  obtain ⟨events, event, more, hevents, hlist⟩ := htrigger
  obtain rfl : r.events = events := Except.ok.inj (hreads.events.symm.trans hevents)
  obtain ⟨hkey, trigger, henter⟩ := enter_anywhere hentered hlist
  refine ⟨(r.name, ⟨trigger, r.issues tags⟩), hreads.name, fun report => ?_⟩
  have hadded :
      (addIssues r.name r.exposed (Entries.insert r.name ⟨trigger, []⟩ report) >>= fun report =>
      addIssues r.name (permissionIssues r.permissions) report >>= fun report =>
        (pure ⟨r.name, report, r.uses⟩ : Except Failure Opened)) =
      .ok ⟨r.name, Entries.insert r.name
        ⟨trigger, r.exposed ++ permissionIssues r.permissions⟩ report, r.uses⟩ :=
    bind_ok.mpr ⟨_, addIssues_insert hkey _ _ _, bind_ok.mpr ⟨_, addIssues_insert hkey _ _ _, rfl⟩⟩
  have hopened : opened report workflow = .ok ⟨r.name, Entries.insert r.name
      ⟨trigger, r.exposed ++ permissionIssues r.permissions⟩ report, r.uses⟩ := by
    refine bind_ok.mpr ⟨r.runs, hreads.runs, bind_ok.mpr ⟨r.uses, hreads.uses, ?_⟩⟩
    refine bind_ok.mpr ⟨r.permissions, hreads.permissions, bind_ok.mpr ⟨r.name, hreads.name, ?_⟩⟩
    refine bind_ok.mpr ⟨r.events, hreads.events, bind_ok.mpr ⟨_, henter report, ?_⟩⟩
    -- the look at the entry finds it
    have hexposed := hreads.exposed
    have hentry : entryOf r.name (Entries.insert r.name ⟨trigger, []⟩ report) = .ok ⟨trigger, []⟩ :=
      entryOf_ok.mpr ⟨hkey, Entries.lookup?_insert_self _ _ _⟩
    cases hruns : r.runs with
    | nil =>
      rw [hruns] at hexposed
      exact bind_ok.mpr ⟨r.exposed, hexposed, hadded⟩
    | cons run rest =>
      rw [hruns] at hexposed
      exact bind_ok.mpr ⟨_, hentry, bind_ok.mpr ⟨r.exposed, hexposed, hadded⟩⟩
  refine bind_ok.mpr ⟨_, hopened, ?_⟩
  exact foldlM_judge_insert hkey hjudged _ report

/-- A workflow alone has one entry. -/
theorem EntersAs.single_eq {pair : Value × WorkflowReport} (h : EntersAs tags workflow pair) :
    single tags workflow = [pair] := by
  unfold single
  rw [h.2 []]
  rfl

/-- Workflows with triggers put their entries in, one after the other. -/
theorem foldlM_assess_of_triggers {workflows : List Value}
    (h : workflows.foldlM (assess tags) before = .ok after)
    (htriggers : ∀ workflow ∈ workflows, HasTrigger workflow) :
    (∀ workflow ∈ workflows, ∃ pair, EntersAs tags workflow pair) ∧
      after = Entries.putAll before (workflows.flatMap (single tags)) := by
  induction workflows generalizing before with
  | nil =>
    obtain rfl := pure_ok.mp h
    exact ⟨List.forall_mem_nil _, rfl⟩
  | cons workflow rest ih =>
    obtain ⟨htrigger, htriggers⟩ := List.forall_mem_cons.mp htriggers
    obtain ⟨mid, hmid, hrest⟩ := foldlM_ok_cons.mp h
    obtain ⟨pair, hpair⟩ := exists_entersAs htrigger hmid
    obtain rfl : mid = Entries.insert pair.1 pair.2 before :=
      Except.ok.inj (hmid.symm.trans (hpair.2 _))
    obtain ⟨hall, rfl⟩ := ih hrest htriggers
    refine ⟨List.forall_mem_cons.mpr ⟨⟨pair, hpair⟩, hall⟩, ?_⟩
    rw [List.flatMap_cons, hpair.single_eq]
    rfl

/-! ## Lasting workflows -/

/-- Whether two workflows have the same name. -/
def sameName (workflow workflow' : Value) : Bool :=
  match workflow.field "name", workflow'.field "name" with
  | .ok name, .ok name' => name.equal name'
  | _, _ => false

/-- The workflows that none of the same name follows. -/
def lasting : List Value → List Value
  | [] => []
  | workflow :: rest =>
    if rest.any (sameName workflow) then lasting rest else workflow :: lasting rest

theorem flatMap_single_lasting {workflows : List Value}
    (h : ∀ workflow ∈ workflows, ∃ pair, EntersAs tags workflow pair) :
    (lasting workflows).flatMap (single tags) =
      Entries.lasting (workflows.flatMap (single tags)) := by
  induction workflows with
  | nil => rfl
  | cons workflow rest ih =>
    obtain ⟨⟨⟨name, entry⟩, hpair⟩, hrest⟩ := List.forall_mem_cons.mp h
    have hspared : Entries.spared (rest.flatMap (single tags)) name =
        !rest.any (sameName workflow) := by
      clear ih h
      induction rest with
      | nil => rfl
      | cons other rest ih =>
        obtain ⟨⟨⟨name', entry'⟩, hpair'⟩, hrest⟩ := List.forall_mem_cons.mp hrest
        have hsame : sameName workflow other = name.equal name' := by
          unfold sameName
          rw [hpair.1, hpair'.1]
        have hcons : Entries.spared ((name', entry') :: rest.flatMap (single tags)) name =
            (!name.equal name' && Entries.spared (rest.flatMap (single tags)) name) := rfl
        rw [List.flatMap_cons, hpair'.single_eq, List.singleton_append, hcons, ih hrest,
          List.any_cons, hsame, Bool.not_or]
    rw [List.flatMap_cons, hpair.single_eq, List.singleton_append, Entries.lasting,
      hspared, lasting]
    by_cases hlater : rest.any (sameName workflow) = true
    · simp only [hlater, if_true, Bool.not_true, Bool.false_eq_true, if_false]
      exact ih hrest
    · have hnone : rest.any (sameName workflow) = false := by simpa using hlater
      simp only [hnone, Bool.not_false, if_true, Bool.false_eq_true, if_false, List.flatMap_cons,
        hpair.single_eq, List.singleton_append]
      rw [ih hrest]

/-- All issues in the report of a file. -/
def issuesIn (fileReport : FileReport) : List Issue :=
  fileReport.flatMap fun entry => entry.2.issues

theorem issuesIn_perm {report report' : FileReport}
    (h : (report.map (·.2)).Perm (report'.map (·.2))) :
    (issuesIn report).Perm (issuesIn report') := by
  have hvalues : ∀ report : FileReport,
      issuesIn report = (report.map (·.2)).flatMap WorkflowReport.issues := by
    intro report
    rw [List.flatMap_map]
    rfl
  rw [hvalues report, hvalues report']
  exact h.flatMap_right _

theorem issuesIn_flatMap (workflows : List Value) :
    issuesIn (workflows.flatMap (single tags)) =
      workflows.flatMap fun workflow => issuesIn (single tags workflow) := by
  unfold issuesIn
  rw [List.flatMap_assoc]

/-- A workflow has a name that can be told from others by what it means. -/
def NameWellFormed (workflow : Value) : Prop :=
  ∀ name, workflow.field "name" = .ok name → name.wellFormed = true

/-- The report of a file has the issues of its lasting workflows. -/
theorem issuesIn_perm_lasting {workflows : List Value}
    (h : workflows.foldlM (assess tags) [] = .ok after)
    (htriggers : ∀ workflow ∈ workflows, HasTrigger workflow)
    (hnames : ∀ workflow ∈ workflows, NameWellFormed workflow) :
    (issuesIn after).Perm
      ((lasting workflows).flatMap fun workflow => issuesIn (single tags workflow)) := by
  obtain ⟨hall, rfl⟩ := foldlM_assess_of_triggers h htriggers
  have hkeys : ∀ k ∈ Entries.keys (workflows.flatMap (single tags)), k.wellFormed = true := by
    intro k hk
    obtain ⟨pair, hpair, rfl⟩ := List.mem_map.mp hk
    obtain ⟨workflow, hworkflow, hmem⟩ := List.mem_flatMap.mp hpair
    obtain ⟨pair', hentered⟩ := hall workflow hworkflow
    rw [hentered.single_eq, List.mem_singleton] at hmem
    rw [hmem]
    exact hnames workflow hworkflow pair'.1 hentered.1
  have hperm := @Entries.putAll_perm _ [] (workflows.flatMap (single tags)) .nil
    (List.forall_mem_nil _) hkeys
  rw [← issuesIn_flatMap, flatMap_single_lasting hall]
  exact issuesIn_perm hperm

/-- A workflow of a list that is followed by another of the same name. -/
def Replaced (workflows : List Value) (workflow : Value) : Prop :=
  ∃ earlier later, workflows = earlier ++ workflow :: later ∧ later.any (sameName workflow) = true

theorem replaced_cons {workflows : List Value} {first : Value} :
    Replaced (first :: workflows) workflow ↔
      first = workflow ∧ workflows.any (sameName workflow) = true ∨
        Replaced workflows workflow := by
  constructor
  · rintro ⟨earlier, later, hsplit, hlater⟩
    cases earlier with
    | nil =>
      obtain ⟨rfl, rfl⟩ := List.cons.inj hsplit
      exact .inl ⟨rfl, hlater⟩
    | cons first' earlier =>
      obtain ⟨-, rfl⟩ := List.cons.inj hsplit
      exact .inr ⟨earlier, later, rfl, hlater⟩
  · rintro (⟨rfl, hlater⟩ | ⟨earlier, later, rfl, hlater⟩)
    · exact ⟨[], workflows, rfl, hlater⟩
    · exact ⟨first :: earlier, later, rfl, hlater⟩

theorem length_lasting_le (yields : Value → List Issue) (workflows : List Value) :
    ((lasting workflows).flatMap yields).length ≤ (workflows.flatMap yields).length := by
  induction workflows with
  | nil => exact Nat.le_refl _
  | cons workflow rest ih =>
    rw [lasting]
    split
    · rw [List.flatMap_cons, List.length_append]
      omega
    · rw [List.flatMap_cons, List.flatMap_cons, List.length_append, List.length_append]
      omega

/-- The lasting workflows have all issues exactly when the replaced ones have none. -/
theorem length_lasting_iff (yields : Value → List Issue) (workflows : List Value) :
    ((lasting workflows).flatMap yields).length = (workflows.flatMap yields).length ↔
      ∀ workflow, Replaced workflows workflow → yields workflow = [] := by
  induction workflows with
  | nil =>
    refine iff_of_true rfl ?_
    rintro workflow ⟨earlier, later, hsplit, -⟩
    exact absurd hsplit (by simp)
  | cons first rest ih =>
    have hle := length_lasting_le yields rest
    have hfirst : (yields first).length = 0 ↔ yields first = [] := List.length_eq_zero_iff
    simp only [replaced_cons, or_imp, forall_and, ← ih, lasting]
    by_cases hlater : rest.any (sameName first) = true
    · rw [if_pos hlater, List.flatMap_cons, List.length_append]
      constructor
      · intro h
        refine ⟨?_, by omega⟩
        rintro workflow ⟨rfl, -⟩
        exact hfirst.mp (by omega)
      · rintro ⟨hnone, h⟩
        have hzero := hfirst.mpr (hnone first ⟨rfl, hlater⟩)
        omega
    · rw [if_neg hlater, List.flatMap_cons, List.flatMap_cons, List.length_append,
        List.length_append]
      constructor
      · intro h
        refine ⟨?_, by omega⟩
        rintro workflow ⟨rfl, hlater'⟩
        exact absurd hlater' hlater
      · rintro ⟨-, h⟩
        omega

/-! ## Stored reports -/

/-- The issues that a report has for a file. -/
def issuesUnder (file : Value) (report : Report) : List Issue :=
  issuesIn ((Entries.lookup? file report).getD [])

/-- What becomes of the issues that the workflows of a file yield, each of them alone. -/
structure IssuesKept (workflows : List Value) (yields : Value → List Issue) (issues : List Issue) :
    Prop where
  /-- Those of the lasting workflows are kept, and no others. -/
  kept : issues.Perm ((lasting workflows).flatMap yields)
  /-- All of them are kept if and only if no workflow that is replaced has any. -/
  all_kept_iff : issues.length = (workflows.flatMap yields).length ↔
    ∀ workflow, Replaced workflows workflow → yields workflow = []

/-- **Lasting workflows keep their issues.**  Take a stored report of workflows that all have a
trigger and a well-formed name, or none.  Each workflow could have been alone in the same session,
where a report with its issues is stored.  Of these issues the report of a file has, in some order,
those of the workflows that no other of the same name follows.  So the number of issues is the sum
over all workflows if and only if the workflows that are replaced have none. -/
theorem lasting_workflows_keep_their_issues {kind : MapKind} {entries : Entries}
    {id content : Value}
    (hdistinct : Entries.Distinct entries)
    (hworkflows : ∀ file listed workflows, (file, listed) ∈ entries → listed.items = .ok workflows →
      ∀ workflow ∈ workflows, HasTrigger workflow ∧ NameWellFormed workflow)
    (h : (store (.map kind entries) id repository).perform s = (.ok content, s')) :
    ∃ report, content = Report.toValue Label.description report ∧
      ∀ file listed workflows, (file, listed) ∈ entries → listed.items = .ok workflows →
        ∃ yields : Value → List Issue,
          (∀ workflow ∈ workflows, ∃ alone s₁,
            (store (.map .plain [(file, .plainList [workflow])]) id repository).perform s =
              (.ok (Report.toValue Label.description alone), s₁) ∧
            issuesUnder file alone = yields workflow) ∧
          IssuesKept workflows yields (issuesUnder file report) := by
  obtain ⟨report, s₁, hbuild, hcontent, -⟩ := perform_store_ok.mp h
  refine ⟨report, hcontent, fun file listed workflows hfile hlisted => ?_⟩
  have htriggers := fun workflow hworkflow =>
    (hworkflows file listed workflows hfile hlisted workflow hworkflow).1
  have hnames := fun workflow hworkflow =>
    (hworkflows file listed workflows hfile hlisted workflow hworkflow).2
  obtain ⟨tags, htags⟩ := exists_tags_of_build hdistinct hbuild
  obtain ⟨fileReport, hfound, hkey, hassess⟩ :=
    exists_assessed_workflows hdistinct (assessed_of_build hdistinct htags hbuild) hfile hlisted
  obtain ⟨hall, -⟩ := foldlM_assess_of_triggers hassess htriggers
  have hperm := issuesIn_perm_lasting hassess htriggers hnames
  have hissues : issuesUnder file report = issuesIn fileReport := by
    unfold issuesUnder
    rw [hfound]
    rfl
  refine ⟨fun workflow => issuesIn (single tags workflow), fun workflow hworkflow => ?_, ?_⟩
  · obtain ⟨pair, hpair⟩ := hall workflow hworkflow
    have hlists : ListsWorkflow entries := by
      cases workflows with
      | nil => cases hworkflow
      | cons first rest => exact ⟨(file, listed), hfile, first, rest, hlisted⟩
    obtain ⟨s₂, hstored⟩ := store_single (htags hlists) hkey (hpair.2 [])
    refine ⟨_, s₂, hstored, ?_⟩
    unfold issuesUnder
    rw [Entries.lookup?_singleton]
    dsimp only
    rw [hpair.single_eq]
    rfl
  · rw [hissues]
    exact ⟨hperm, by rw [hperm.length_eq, length_lasting_iff]⟩

/-! ### Two workflows without a name -/

/-- A file with two workflows that have no name. -/
def twoUnnamed : Entries :=
  [(.text "ci.yml", .plainList [bareWorkflow .null "build", bareWorkflow .null "test"])]

/-- The law at two workflows without a name: each of them alone has its issues reported, and
together they have those of the second. -/
theorem second_unnamed_workflow_lasts :
    ∃ report build test s₁ s₂ s₃,
      (store (.map .plain twoUnnamed) (.text "id1") (.text "own/repo")).perform untaggedSession =
        (.ok (Report.toValue Label.description report), s₁) ∧
      (store (.map .plain [(.text "ci.yml", .plainList [bareWorkflow .null "build"])])
          (.text "id1") (.text "own/repo")).perform untaggedSession =
        (.ok (Report.toValue Label.description build), s₂) ∧
      (store (.map .plain [(.text "ci.yml", .plainList [bareWorkflow .null "test"])])
          (.text "id1") (.text "own/repo")).perform untaggedSession =
        (.ok (Report.toValue Label.description test), s₃) ∧
      (issuesUnder (.text "ci.yml") report).Perm (issuesUnder (.text "ci.yml") test) := by
  have hok : ((store (.map .plain twoUnnamed) (.text "id1") (.text "own/repo")).perform
      untaggedSession).1.isOk = true := by decide +kernel
  obtain ⟨content, s₁, hrun⟩ := exists_of_isOk hok
  have hworkflows : ∀ file listed workflows, (file, listed) ∈ twoUnnamed →
      listed.items = .ok workflows →
        ∀ workflow ∈ workflows, HasTrigger workflow ∧ NameWellFormed workflow := by
    intro file listed workflows hfile hlisted workflow hworkflow
    obtain ⟨rfl, rfl⟩ := Prod.mk.inj (List.mem_singleton.mp hfile)
    obtain rfl := pure_ok.mp hlisted
    have hbare : ∀ job, HasTrigger (bareWorkflow .null job) ∧
        NameWellFormed (bareWorkflow .null job) := by
      intro job
      refine ⟨⟨_, _, _, rfl, rfl⟩, fun name hname => ?_⟩
      obtain rfl : .null = name := Except.ok.inj hname
      rfl
    rcases List.mem_pair.mp hworkflow with rfl | rfl
    · exact hbare "build"
    · exact hbare "test"
  obtain ⟨report, rfl, hfiles⟩ :=
    lasting_workflows_keep_their_issues (Entries.distinct_singleton _ _) hworkflows hrun
  obtain ⟨yields, halone, hkept⟩ := hfiles (.text "ci.yml") _
    [bareWorkflow .null "build", bareWorkflow .null "test"] List.mem_cons_self rfl
  obtain ⟨build, s₂, hbuild, -⟩ := halone (bareWorkflow .null "build") List.mem_cons_self
  obtain ⟨test, s₃, htest, hyields⟩ :=
    halone (bareWorkflow .null "test") (List.mem_cons_of_mem _ List.mem_cons_self)
  have hlasting : lasting [bareWorkflow .null "build", bareWorkflow .null "test"] =
      [bareWorkflow .null "test"] := rfl
  have hperm := hkept.kept
  rw [hlasting, List.flatMap_singleton, ← hyields] at hperm
  exact ⟨report, build, test, s₁, s₂, s₃, hrun, hbuild, htest, hperm⟩

/-- Of two workflows without a name, the issues of the first are missing from the report, which it
has alone. -/
theorem report_of_two_unnamed :
    returns ((store (.map .plain twoUnnamed) (.text "id1") (.text "own/repo")).perform
        untaggedSession).1
      (Report.toValue Label.description [(.text "ci.yml", [(.null, ⟨(.text "push", .int 1),
        [.about (.text "test") .noDeclaration]⟩)])]) = true ∧
    returns ((store (.map .plain [(.text "ci.yml", .plainList [bareWorkflow .null "build"])])
        (.text "id1") (.text "own/repo")).perform untaggedSession).1
      (Report.toValue Label.description [(.text "ci.yml", [(.null, ⟨(.text "push", .int 1),
        [.about (.text "build") .noDeclaration]⟩)])]) = true := by
  decide +kernel

end Report

end WorkflowAudit
