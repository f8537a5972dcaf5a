import WorkflowAudit.Proofs.Caches
import WorkflowAudit.Proofs.Exposure
import WorkflowAudit.Proofs.SideBySide

/-! # Workflows are assessed independently

The workflows of a stored report share one mapping of entries and one lookup of tags.  Neither makes
one workflow depend on another, as long as no other has its name.

The tags are the same for all of them: the first lookup puts them into the store, where the later
ones find them (`settledTags`), and a lookup from the same session gives the same tags whichever
workflow asks first.  The entries of other names are passed over (`assess_append`), so a workflow
comes to the same entry behind any others, and to the same failure.

`workflows_assessed_independently` draws the two together: a workflow alone gets the entry that it
has among others, and rearranging a file, the files, or adding files changes the order of entries
only.
-/
namespace WorkflowAudit
namespace Report

open Audit Session

variable {repository tags workflow : Value} {before after report : FileReport} {s s' : Session}

/-! ## The same tags for every workflow -/

/-- A lookup of the tags of a repository gives some tags. -/
def TagsAre (repository tags : Value) (s : Session) : Prop :=
  ((Release.tags repository).perform s).1 = .ok tags

/-- A scene in which a lookup of tags gives the same tags every time, if it is made at all. -/
def settledTags (asked : Prop) (repository tags : Value) : Scene [Release.tagsCache] where
  holds s := asked → TagsAre repository tags s
  ends _ := True
  holds_printed text h hasked :=
    (Release.alongside_tags repository _ _ (sameButLog_printed text _)).1.symm.trans (h hasked)
  ends_earlier _ h := h

/-- The tags that were given once are known, and given again. -/
theorem gives_settledTags {asked : Prop} (hasked : asked) :
    (settledTags asked repository tags).Gives (Release.tags repository) (.ok tags) := by
  intro s hs _
  have htags : ((Release.tags repository).perform s).1 = .ok tags := hs hasked
  refine ⟨htags, fun _ => ?_⟩
  rcases hrun : (Release.tags repository).perform s with ⟨outcome, s₁⟩
  rw [hrun] at htags
  obtain rfl : outcome = .ok tags := htags
  obtain ⟨document, hknown, hdocument⟩ := Release.known_of_tags hrun
  unfold TagsAre
  rw [Release.perform_tags_of_known (Release.isShowable_of_tags hrun) hknown hdocument]

/-- At least one workflow is listed. -/
def ListsWorkflow (entries : Entries) : Prop :=
  ∃ source ∈ entries, ∃ workflow more, source.2.items = .ok (workflow :: more)

/-- The report of files is their assessment with the tags that a lookup gives, if there is a
workflow that makes one. -/
theorem build_of_settled {kind : MapKind} {entries : Entries}
    (h : ListsWorkflow entries → TagsAre repository tags s) :
    ((build (fun _ => Release.tags repository) (.map kind entries)).perform s).1 =
      assessAll tags (.map kind entries) := by
  have hwithin : ∀ _ : Value, (Release.tags repository).Within [Release.tagsCache] :=
    fun _ => Release.within_tags repository List.mem_cons_self
  suffices hgives : (settledTags (ListsWorkflow entries) repository tags).Gives
      (build (fun _ => Release.tags repository) (.map kind entries))
      (assessAll tags (.map kind entries)) from (hgives s h trivial).1
  refine gives_build_of_files hwithin fun names entries' _ hentries file _ => ?_
  obtain rfl : entries = entries' := pure_ok.mp hentries
  cases hitems : ((Entries.lookup? file entries).getD .null).items with
  | error failure =>
    unfold ofFile assessFile
    rw [hitems]
    exact Scene.gives_check (.error failure)
  | ok workflows =>
    cases workflows with
    | nil =>
      unfold ofFile assessFile
      rw [hitems]
      exact Scene.gives_pure []
    | cons workflow more =>
      refine gives_ofFile (hwithin file) (gives_settledTags ?_) _
      cases hfound : Entries.lookup? file entries with
      | none => rw [hfound] at hitems; cases hitems
      | some listed =>
        rw [hfound] at hitems
        obtain ⟨k, hmem⟩ := Entries.mem_of_lookup? hfound
        exact ⟨(k, listed), hmem, workflow, more, hitems⟩

/-- A report that was built has had its tags from a lookup where it began. -/
theorem tagsAre_of_build {kind : MapKind} {entries : Entries} {report : Report}
    (hdistinct : Entries.Distinct entries)
    (h : (build (fun _ => Release.tags repository) (.map kind entries)).perform s =
      (.ok report, s'))
    (hlists : ListsWorkflow entries) : ∃ tags, TagsAre repository tags s := by
  rw [build_eq] at h
  replace ⟨files, s₁, hcheck, h⟩ := perform_bind_ok.mp h
  obtain ⟨hitems, rfl⟩ := perform_check_ok.mp hcheck
  obtain rfl := pure_ok.mp hitems
  suffices hrest : ∀ (todo : Entries) (found : Report), todo ⊆ entries → ListsWorkflow todo →
      ((Entries.keys todo).foldlM (addFile (fun _ => Release.tags repository) (.map kind entries))
        found).perform s = (.ok report, s') → ∃ tags, TagsAre repository tags s from
    hrest entries [] (List.Subset.refl _) hlists h
  clear h hlists
  intro todo
  induction todo with
  | nil =>
    rintro found - ⟨source, hsource, -⟩
    cases hsource
  | cons entry rest ih =>
    intro found hsub hlists h
    obtain ⟨file, listed⟩ := entry
    obtain ⟨mid, s₁, hfile, hrest⟩ := foldlM_cons_ok.mp h
    obtain ⟨fileReport, hofFile, -⟩ := perform_addFile_ok
      (Entries.lookup?_of_mem hdistinct (hsub List.mem_cons_self)) hfile
    obtain ⟨workflows, s₂, hcheck, hofFile⟩ := perform_bind_ok.mp hofFile
    obtain ⟨hworkflows, rfl⟩ := perform_check_ok.mp hcheck
    cases workflows with
    | nil =>
      -- a file without workflows leaves the session as it is, so the first lookup is still to come
      obtain ⟨-, rfl⟩ := perform_pure_ok.mp hofFile
      obtain ⟨source, hsource, workflow, more, hlisted⟩ := hlists
      rcases List.mem_cons.mp hsource with rfl | hsource
      · cases hlisted.symm.trans hworkflows
      · exact ih mid (fun e he => hsub (List.mem_cons_of_mem _ he))
          ⟨source, hsource, workflow, more, hlisted⟩ hrest
    | cons workflow more =>
      obtain ⟨next, s₂, hworkflow, -⟩ := foldlM_cons_ok.mp hofFile
      obtain ⟨tags, s₃, hfetch, -⟩ := addWorkflow_ok hworkflow
      exact ⟨tags, congrArg Prod.fst hfetch⟩

/-! ## Entries of other names are passed over -/

/-- A step works on a report behind other entries as it does without them, failures included. -/
def PassesOver (before : FileReport) (step : FileReport → Except Failure FileReport) : Prop :=
  ∀ report, step (before ++ report) = (before ++ ·) <$> step report

namespace PassesOver

variable {α : Type} {f g : FileReport → Except Failure FileReport}

theorem pure : PassesOver before Pure.pure :=
  fun _ => rfl

theorem bind (hf : PassesOver before f) (hg : PassesOver before g) :
    PassesOver before fun report => f report >>= g := by
  intro report
  show f (before ++ report) >>= g = (before ++ ·) <$> (f report >>= g)
  rw [hf report]
  cases f report with
  | error failure => rfl
  | ok mid => exact hg mid

theorem check (result : Except Failure α) {f : α → FileReport → Except Failure FileReport}
    (h : ∀ a, result = .ok a → PassesOver before (f a)) :
    PassesOver before fun report => result >>= fun a => f a report := by
  intro report
  cases result with
  | error failure => rfl
  | ok a => exact h a rfl report

theorem foldlM {visit : FileReport → α → Except Failure FileReport}
    (h : ∀ a, PassesOver before fun report => visit report a) (items : List α) :
    PassesOver before (items.foldlM visit) := by
  induction items with
  | nil => exact pure
  | cons a items ih => exact (h a).bind ih

end PassesOver

section Names

variable {name : Value} (hfresh : Entries.Fresh name before)
include hfresh

theorem passesOver_enter (events : Value) : PassesOver before (enter name events) := by
  have henter := funext (enter_eq name events)
  rw [henter]
  refine .check _ fun list _ => .foldlM (fun event => ?_) list
  refine .check _ fun type _ => .check _ fun rank _ => .check _ fun _ _ report => ?_
  rw [Entries.insert_append_of_fresh _ hfresh]
  rfl

theorem entryOf_append (report : FileReport) :
    entryOf name (before ++ report) = entryOf name report := by
  unfold entryOf
  rw [Entries.lookup?_append_of_fresh hfresh]

theorem passesOver_addIssues (issues : List Issue) : PassesOver before (addIssues name issues) := by
  intro report
  unfold addIssues
  split
  · rfl
  · rw [entryOf_append hfresh]
    cases entryOf name report with
    | error failure => rfl
    | ok entry =>
      show Except.ok _ = Except.ok _
      rw [Entries.insert_append_of_fresh _ hfresh]

theorem passesOver_judge (tags : Value) (use : Findings.ActionUse) :
    PassesOver before fun report => judge name tags report use :=
  .check _ fun _ _ => passesOver_addIssues hfresh _

end Names

/-- A workflow is assessed behind entries of other names as it is without them. -/
theorem assess_append (tags : Value)
    (hfresh : ∀ name, workflow.field "name" = .ok name → Entries.Fresh name before) :
    PassesOver before fun report => assess tags report workflow := by
  unfold assess opened
  simp only [bind_assoc]
  refine .check _ fun runs _ => .check _ fun uses _ => .check _ fun permissions _ => ?_
  refine .check _ fun name hname => .check _ fun events _ => ?_
  replace hfresh := hfresh name hname
  refine (passesOver_enter hfresh events).bind ?_
  have hissues : PassesOver before fun report => exposures runs >>= fun exposed =>
      addIssues name exposed report >>= fun report =>
        addIssues name (permissionIssues permissions) report >>= uses.foldlM (judge name tags) :=
    .check _ fun exposed _ => (passesOver_addIssues hfresh exposed).bind
      ((passesOver_addIssues hfresh _).bind (.foldlM (passesOver_judge hfresh tags) uses))
  cases runs with
  | nil =>
    simp only [List.isEmpty_nil, Bool.not_true, Bool.false_eq_true, if_false, bind_assoc, pure_bind]
    exact hissues
  | cons run rest =>
    intro entered
    simp only [List.isEmpty_cons, Bool.not_false, if_true, bind_assoc, pure_bind]
    rw [entryOf_append hfresh]
    cases entryOf name entered with
    | error failure => rfl
    | ok entry => exact hissues entered

/-- A workflow that comes behind entries of other names adds what it comes to alone. -/
theorem assess_of_fresh
    (hfresh : ∀ name, workflow.field "name" = .ok name → Entries.Fresh name before) :
    assess tags before workflow = .ok after ↔
      ∃ alone, assess tags [] workflow = .ok alone ∧ after = before ++ alone := by
  have hpass : assess tags (before ++ []) workflow = (before ++ ·) <$> assess tags [] workflow :=
    assess_append tags hfresh []
  rw [← List.append_nil before, hpass, List.append_nil]
  cases assess tags [] workflow with
  | error failure =>
    constructor
    · intro h
      cases h
    · rintro ⟨alone, h, -⟩
      cases h
  | ok report =>
    constructor
    · intro h
      exact ⟨report, rfl, (Except.ok.inj h).symm⟩
    · rintro ⟨alone, h, rfl⟩
      cases h
      rfl

/-! ## The workflows of a file -/

/-- A workflow leaves a report as it is, or it has an entry under its name. -/
theorem assess_inserts (h : assess tags before workflow = .ok after) :
    ∃ name, workflow.field "name" = .ok name ∧
      (after = before ∨ ∃ entry, after = Entries.insert name entry before) := by
  obtain ⟨r, entered, hreads, hentered, hadded, -⟩ := assess_ok h
  obtain ⟨events, -, hcases⟩ := enter_ok hentered
  refine ⟨r.name, hreads.name, ?_⟩
  have hafter : after = entered ∨ ∃ entry, after = Entries.insert r.name entry entered := by
    cases hissues : r.issues tags with
    | nil =>
      rw [hissues, addIssues_nil] at hadded
      exact .inl (Except.ok.inj hadded).symm
    | cons issue rest =>
      rw [hissues] at hadded
      obtain ⟨entry, -, -, rfl⟩ := addIssues_cons_ok.mp hadded
      exact .inr ⟨_, rfl⟩
  rcases hcases with ⟨-, rfl⟩ | ⟨trigger, last, -, -, -, rfl⟩
  · exact hafter
  · rcases hafter with rfl | ⟨entry, rfl⟩
    · exact .inr ⟨_, rfl⟩
    · exact .inr ⟨entry, Entries.insert_insert _ _ _ _⟩

/-- The names in a report are those of workflows that were assessed. -/
theorem exists_of_mem_keys {workflows : List Value} (h : Assembled before workflows after)
    {k : Value}
    (hk : k ∈ Entries.keys after) :
    k ∈ Entries.keys before ∨ ∃ workflow ∈ workflows, workflow.field "name" = .ok k := by
  refine h.induct (P := fun report => ∀ k ∈ Entries.keys report, k ∈ Entries.keys before ∨
    ∃ workflow ∈ workflows, workflow.field "name" = .ok k) (fun k hk => .inl hk) ?_ k hk
  intro tags found workflow found' hworkflow hassess hfound k hk
  obtain ⟨name, hname, rfl | ⟨entry, rfl⟩⟩ := assess_inserts hassess
  · exact hfound k hk
  · rcases Entries.mem_keys_insert hk with hk | rfl
    · exact hfound k hk
    · exact .inr ⟨workflow, hworkflow, hname⟩

/-- Neither of two workflows has the name of the other. -/
def Apart (workflow workflow' : Value) : Prop :=
  NamedApart workflow workflow' ∧ NamedApart workflow' workflow

theorem apart_of_names {workflow' name name' : Value} (hname : workflow.field "name" = .ok name)
    (hname' : workflow'.field "name" = .ok name') (h : name.equal name' = false)
    (h' : name'.equal name = false) : Apart workflow workflow' := by
  constructor
  · intro found found' hfound hfound'
    obtain rfl : name = found := Except.ok.inj (hname.symm.trans hfound)
    obtain rfl : name' = found' := Except.ok.inj (hname'.symm.trans hfound')
    exact h
  · intro found' found hfound' hfound
    obtain rfl : name = found := Except.ok.inj (hname.symm.trans hfound)
    obtain rfl : name' = found' := Except.ok.inj (hname'.symm.trans hfound')
    exact h'

/-- The name of a workflow is not in a report of others that are named differently. -/
theorem fresh_of_apart {workflows : List Value} {name : Value}
    (h : Assembled [] workflows report) (hapart : ∀ other ∈ workflows, NamedApart other workflow)
    (hname : workflow.field "name" = .ok name) : Entries.Fresh name report := by
  intro k hk
  rcases exists_of_mem_keys h hk with hk | ⟨other, hother, hk⟩
  · cases hk
  · exact hapart other hother k name hk hname

theorem foldlM_assess_singleton :
    [workflow].foldlM (assess tags) before = .ok after ↔
      assess tags before workflow = .ok after := by
  rw [List.foldlM_cons, funext fun report => List.foldlM_nil, bind_pure]

/-- The entry under a name stays through workflows that are named differently. -/
theorem lookup?_of_assembled {workflows : List Value} {name : Value}
    (h : Assembled before workflows after)
    (hapart : ∀ other ∈ workflows, ∀ name', other.field "name" = .ok name' →
      name.equal name' = false ∧ name'.equal name = false)
    (hkeys : ∀ k ∈ Entries.keys before, k.equal name = true → k = name) :
    Entries.lookup? name after = Entries.lookup? name before := by
  -- a key that means the same as the name is the name itself, so no insertion touches it
  suffices hkept : (∀ k ∈ Entries.keys after, k.equal name = true → k = name) ∧
      Entries.lookup? name after = Entries.lookup? name before from hkept.2
  refine h.induct (P := fun found =>
    (∀ k ∈ Entries.keys found, k.equal name = true → k = name) ∧
      Entries.lookup? name found = Entries.lookup? name before) ⟨hkeys, rfl⟩ ?_
  rintro tags found other found' hother hassess ⟨hkeys, hlookup⟩
  obtain ⟨name', hname', rfl | ⟨entry, rfl⟩⟩ := assess_inserts hassess
  · exact ⟨hkeys, hlookup⟩
  · obtain ⟨hne, hne'⟩ := hapart other hother name' hname'
    refine ⟨fun k hk hequal => ?_, ?_⟩
    · rcases Entries.mem_keys_insert hk with hk | rfl
      · exact hkeys k hk hequal
      · rw [hne'] at hequal
        cases hequal
    · rw [Entries.lookup?_insert_of_apart entry hne' fun k hk hequal => hkeys k hk hequal ▸ hne]
      exact hlookup

/-- A workflow that shares its name with no other of its file has the entry that it gets alone, or
has none in both. -/
theorem lookup?_of_apart {earlier later : List Value} {name : Value}
    (h : (earlier ++ workflow :: later).foldlM (assess tags) [] = .ok report)
    (hname : workflow.field "name" = .ok name)
    (hapart : ∀ other ∈ earlier ++ later, Apart workflow other) :
    ∃ alone, assess tags [] workflow = .ok alone ∧
      Entries.lookup? name report = Entries.lookup? name alone := by
  rw [List.foldlM_append, bind_ok] at h
  obtain ⟨before, hbefore, h⟩ := h
  obtain ⟨after, hassess, hlater⟩ := foldlM_ok_cons.mp h
  have hfresh : Entries.Fresh name before := fresh_of_apart (assembled_of_foldlM hbefore)
    (fun other hother => (hapart other (List.mem_append_left _ hother)).2) hname
  obtain ⟨alone, halone, rfl⟩ := (assess_of_fresh fun name' hname' => by
    obtain rfl : name = name' := Except.ok.inj (hname.symm.trans hname')
    exact hfresh).mp hassess
  refine ⟨alone, halone, ?_⟩
  refine Eq.trans ?_ (Entries.lookup?_append_of_fresh hfresh)
  refine lookup?_of_assembled (assembled_of_foldlM hlater) (fun other hother name' hname' => ?_)
    fun k hk hequal => ?_
  · obtain ⟨hne, hne'⟩ := hapart other (List.mem_append_right _ hother)
    exact ⟨hne name name' hname hname', hne' name' name hname' hname⟩
  · rw [Entries.keys, List.map_append] at hk
    rcases List.mem_append.mp hk with hk | hk
    · rw [hfresh k hk] at hequal
      cases hequal
    · rcases exists_of_mem_keys (.cons halone (.nil _)) hk with hk | ⟨other, hother, hk⟩
      · cases hk
      · obtain rfl := List.mem_singleton.mp hother
        exact Except.ok.inj (hk.symm.trans hname)

/-- The report of a workflow alone; one that cannot be assessed has none. -/
def single (tags workflow : Value) : FileReport :=
  (assess tags [] workflow).toOption.getD []

/-- The report of workflows that are named differently is made of those of each alone. -/
theorem foldlM_assess_of_apart {workflows : List Value} (hapart : workflows.Pairwise Apart)
    (hfresh : ∀ workflow ∈ workflows, ∀ name, workflow.field "name" = .ok name →
      Entries.Fresh name before) :
    workflows.foldlM (assess tags) before = .ok after ↔
      (∀ workflow ∈ workflows, assess tags [] workflow = .ok (single tags workflow)) ∧
        after = before ++ workflows.flatMap (single tags) := by
  induction workflows generalizing before with
  | nil =>
    rw [List.foldlM_nil, pure_ok, List.flatMap_nil, List.append_nil, eq_comm]
    exact ⟨fun h => ⟨List.forall_mem_nil _, h⟩, And.right⟩
  | cons workflow rest ih =>
    obtain ⟨hfirst, hrest⟩ := List.pairwise_cons.mp hapart
    obtain ⟨hfresh₁, hfresh⟩ := List.forall_mem_cons.mp hfresh
    -- behind the first workflow the others still have names of their own
    have hnext : ∀ alone, assess tags [] workflow = .ok alone → ∀ other ∈ rest, ∀ name,
        other.field "name" = .ok name → Entries.Fresh name (before ++ alone) := by
      intro alone halone other hother name hname
      refine Entries.fresh_append.mpr ⟨hfresh other hother name hname, ?_⟩
      refine fresh_of_apart (.cons halone (.nil _)) (fun w hw => ?_) hname
      rw [List.mem_singleton.mp hw]
      exact (hfirst other hother).1
    have hsingle : ∀ alone, assess tags [] workflow = .ok alone → single tags workflow = alone := by
      intro alone halone
      unfold single
      rw [halone]
      rfl
    rw [foldlM_ok_cons, List.forall_mem_cons, List.flatMap_cons, ← List.append_assoc]
    constructor
    · rintro ⟨mid, hassess, hrest'⟩
      obtain ⟨alone, halone, rfl⟩ := (assess_of_fresh hfresh₁).mp hassess
      obtain ⟨hall, rfl⟩ := (ih hrest (hnext alone halone)).mp hrest'
      rw [hsingle alone halone]
      exact ⟨⟨halone, hall⟩, rfl⟩
    · rintro ⟨⟨halone, hall⟩, rfl⟩
      exact ⟨_, (assess_of_fresh hfresh₁).mpr ⟨_, halone, rfl⟩,
        (ih hrest (hnext _ halone)).mpr ⟨hall, rfl⟩⟩

theorem pairwise_apart_of_perm {workflows workflows' : List Value}
    (hperm : workflows.Perm workflows')
    (h : workflows.Pairwise Apart) : workflows'.Pairwise Apart :=
  hperm.pairwise h fun h => ⟨h.2, h.1⟩

/-- Rearranging workflows that are named differently rearranges their entries. -/
theorem foldlM_assess_perm {workflows workflows' : List Value} (hperm : workflows.Perm workflows')
    (hapart : workflows.Pairwise Apart) (h : workflows.foldlM (assess tags) [] = .ok report) :
    ∃ report', workflows'.foldlM (assess tags) [] = .ok report' ∧ report.Perm report' := by
  have hapart' : workflows'.Pairwise Apart := pairwise_apart_of_perm hperm hapart
  have hfresh : ∀ name : Value, Entries.Fresh name ([] : FileReport) := fun _ =>
      List.forall_mem_nil _
  obtain ⟨hall, rfl⟩ := (foldlM_assess_of_apart hapart fun _ _ name _ => hfresh name).mp h
  refine ⟨_, (foldlM_assess_of_apart hapart' fun _ _ name _ => hfresh name).mpr ⟨?_, rfl⟩, ?_⟩
  · exact fun workflow hworkflow => hall workflow (hperm.mem_iff.mpr hworkflow)
  · exact hperm.flatMap_right _

/-! ## The files of a report -/

/-- What a report says of a file is the assessment of the workflows listed for it. -/
def FileAssessed (tags : Value) (source : Value × Value) (found : Value × FileReport) : Prop :=
  found.1 = source.1 ∧ source.1.checkKey = .ok () ∧ assessFile tags source.2 = .ok found.2

theorem assessInto_ok {tags file listed : Value} {kind : MapKind} {entries : Entries}
    {report report' : Report} (hlisted : Entries.lookup? file entries = some listed) :
    assessInto tags (.map kind entries) report file = .ok report' ↔
      ∃ fileReport, FileAssessed tags (file, listed) (file, fileReport) ∧
        report' = Entries.insert file fileReport report := by
  have hinto : assessInto tags (.map kind entries) report file = (do
      file.checkKey
      let fileReport ← assessFile tags listed
      return Entries.insert file fileReport report) := by
    unfold assessInto
    show (file.checkKey >>= fun _ => assessFile tags ((Entries.lookup? file entries).getD .null) >>=
      fun fileReport => pure (Entries.insert file fileReport report)) = _
    rw [hlisted]
    rfl
  rw [hinto, bind_ok]
  constructor
  · rintro ⟨⟨⟩, hkey, h⟩
    obtain ⟨fileReport, hfile, h⟩ := bind_ok.mp h
    exact ⟨fileReport, ⟨rfl, hkey, hfile⟩, (pure_ok.mp h).symm⟩
  · rintro ⟨fileReport, ⟨-, hkey, hfile⟩, rfl⟩
    exact ⟨(), hkey, bind_ok.mpr ⟨fileReport, hfile, rfl⟩⟩

/-- A report has the assessment of each of its files, in the order of the files. -/
theorem assessAll_ok {kind : MapKind} {entries : Entries} {report : Report}
    (hdistinct : Entries.Distinct entries) :
    assessAll tags (.map kind entries) = .ok report ↔
      List.Forall₂ (FileAssessed tags) entries report := by
  suffices hrest : ∀ (todo : Entries) (found : Report), todo ⊆ entries → Entries.Distinct todo →
      (∀ file ∈ Entries.keys todo, Entries.Fresh file found) →
      ((Entries.keys todo).foldlM (assessInto tags (.map kind entries)) found = .ok report ↔
        ∃ more, List.Forall₂ (FileAssessed tags) todo more ∧ report = found ++ more) by
    refine (hrest entries [] (List.Subset.refl _) hdistinct fun _ _ =>
      List.forall_mem_nil _).trans ?_
    simp
  intro todo
  induction todo with
  | nil =>
    intro found _ _ _
    show (pure found : Except Failure Report) = .ok report ↔ _
    rw [pure_ok, eq_comm]
    simp
  | cons entry rest ih =>
    intro found hsub hdistinct' hfresh
    obtain ⟨file, listed⟩ := entry
    obtain ⟨hfile, hrest⟩ := Entries.distinct_cons.mp hdistinct'
    have hlisted := Entries.lookup?_of_mem hdistinct (hsub List.mem_cons_self)
    have hinsert := fun fileReport : FileReport =>
      Entries.insert_of_fresh fileReport (hfresh file List.mem_cons_self)
    -- the files that are left differ from this one and from those before it
    have hnext : ∀ fileReport, ∀ file' ∈ Entries.keys rest,
        Entries.Fresh file' (found ++ [(file, fileReport)]) := fun fileReport file' hfile' =>
      Entries.fresh_append.mpr ⟨hfresh file' (List.mem_cons_of_mem _ hfile'),
        Entries.fresh_cons.mpr ⟨hfile file' hfile', List.forall_mem_nil _⟩⟩
    have hsub' : rest ⊆ entries := fun e he => hsub (List.mem_cons_of_mem _ he)
    show (file :: Entries.keys rest).foldlM _ found = _ ↔ _
    rw [foldlM_ok_cons]
    simp only [assessInto_ok hlisted, List.forall₂_cons_left_iff]
    constructor
    · rintro ⟨_, ⟨fileReport, hassessed, rfl⟩, h⟩
      rw [hinsert, ih _ hsub' hrest (hnext fileReport)] at h
      obtain ⟨more, hmore, rfl⟩ := h
      exact ⟨_, ⟨_, more, hassessed, hmore, rfl⟩, by simp⟩
    · rintro ⟨_, ⟨⟨file', fileReport⟩, more, hassessed, hmore, rfl⟩, rfl⟩
      obtain rfl : file' = file := hassessed.1
      refine ⟨_, ⟨fileReport, hassessed, rfl⟩, ?_⟩
      rw [hinsert, ih _ hsub' hrest (hnext fileReport)]
      exact ⟨more, hmore, by simp⟩

/-- Each file has its assessment in a report. -/
theorem exists_assessed {entries : Entries} {report : Report} {file listed : Value}
    (hdistinct : Entries.Distinct entries) (h : List.Forall₂ (FileAssessed tags) entries report)
    (hfile : (file, listed) ∈ entries) :
    ∃ fileReport, Entries.lookup? file report = some fileReport ∧
      FileAssessed tags (file, listed) (file, fileReport) := by
  have hkeys : Entries.KeysDiffer (FileAssessed tags) entries :=
    hdistinct.keysDiffer fun _ _ hfound => hfound.1
  obtain ⟨⟨file', fileReport⟩, hmem, hassessed⟩ := Entries.exists_mem_of_forall₂ h hfile
  obtain rfl : file' = file := hassessed.1
  exact ⟨fileReport, Entries.lookup?_of_mem (Entries.distinct_of_forall₂ h hkeys) hmem, hassessed⟩

theorem exists_assessed_workflows {entries : Entries} {report : Report} {file listed : Value}
    {workflows : List Value} (hdistinct : Entries.Distinct entries)
    (h : List.Forall₂ (FileAssessed tags) entries report) (hfile : (file, listed) ∈ entries)
    (hlisted : listed.items = .ok workflows) :
    ∃ fileReport, Entries.lookup? file report = some fileReport ∧ file.checkKey = .ok () ∧
      workflows.foldlM (assess tags) [] = .ok fileReport := by
  obtain ⟨fileReport, hfound, -, hkey, hassess⟩ := exists_assessed hdistinct h hfile
  obtain ⟨found, hitems, hassess⟩ := bind_ok.mp hassess
  obtain rfl : workflows = found := Except.ok.inj (hlisted.symm.trans hitems)
  exact ⟨fileReport, hfound, hkey, hassess⟩

/-- What is listed for a file is the same, or it is in another order and the names of the workflows
differ. -/
def Rearranged (listed listed' : Value) : Prop :=
  ∃ workflows workflows', listed.items = .ok workflows ∧ listed'.items = .ok workflows' ∧
    (workflows' = workflows ∨ workflows.Perm workflows' ∧ workflows.Pairwise Apart)

theorem assessFile_rearranged {listed listed' : Value} (h : Rearranged listed listed')
    (hfile : assessFile tags listed = .ok report) :
    ∃ report', assessFile tags listed' = .ok report' ∧ report.Perm report' := by
  obtain ⟨workflows, workflows', hitems, hitems', hcases⟩ := h
  obtain ⟨found, hfound, hfile⟩ := bind_ok.mp hfile
  obtain rfl : workflows = found := Except.ok.inj (hitems.symm.trans hfound)
  rcases hcases with rfl | ⟨hperm, hapart⟩
  · exact ⟨report, bind_ok.mpr ⟨_, hitems', hfile⟩, List.Perm.refl _⟩
  · obtain ⟨report', hreport', hsame⟩ := foldlM_assess_perm hperm hapart hfile
    exact ⟨report', bind_ok.mpr ⟨_, hitems', hreport'⟩, hsame⟩

theorem Rearranged.symm {listed listed' : Value} (h : Rearranged listed listed') :
    Rearranged listed' listed := by
  obtain ⟨workflows, workflows', hitems, hitems', rfl | ⟨hperm, hapart⟩⟩ := h
  · exact ⟨_, _, hitems', hitems, .inl rfl⟩
  · exact ⟨_, _, hitems', hitems, .inr ⟨hperm.symm, pairwise_apart_of_perm hperm hapart⟩⟩

theorem Rearranged.exists_cons {listed listed' : Value} (h : Rearranged listed listed')
    (hlisted : ∃ workflow more, listed.items = .ok (workflow :: more)) :
    ∃ workflow more, listed'.items = .ok (workflow :: more) := by
  obtain ⟨workflows, workflows', hitems, hitems', hcases⟩ := h
  obtain ⟨workflow, more, hlisted⟩ := hlisted
  obtain rfl : workflow :: more = workflows := Except.ok.inj (hlisted.symm.trans hitems)
  cases workflows' with
  | nil =>
    rcases hcases with hsame | ⟨hperm, -⟩
    · cases hsame
    · cases hperm.eq_nil
  | cons first rest => exact ⟨first, rest, hitems'⟩

/-! ## Stored reports -/

section Stored

variable {kind kind' : MapKind} {entries entries' : Entries} {id id' content : Value}

/-- There are tags with which the files of a report were assessed, if it was built. -/
theorem exists_tags_of_build {report : Report} (hdistinct : Entries.Distinct entries)
    (h : (build (fun _ => Release.tags repository) (.map kind entries)).perform s =
      (.ok report, s')) :
    ∃ tags, ListsWorkflow entries → TagsAre repository tags s := by
  by_cases hlists : ListsWorkflow entries
  · obtain ⟨tags, htags⟩ := tagsAre_of_build hdistinct h hlists
    exact ⟨tags, fun _ => htags⟩
  · exact ⟨.null, fun h => absurd h hlists⟩

theorem assessed_of_build {report : Report} (hdistinct : Entries.Distinct entries)
    (htags : ListsWorkflow entries → TagsAre repository tags s)
    (h : (build (fun _ => Release.tags repository) (.map kind entries)).perform s =
      (.ok report, s')) :
    List.Forall₂ (FileAssessed tags) entries report := by
  have hassess : assessAll tags (.map kind entries) = .ok report :=
    (build_of_settled htags).symm.trans (congrArg Prod.fst h)
  exact (assessAll_ok hdistinct).mp hassess

/-- Files that can be assessed with the tags of a repository have a stored report. -/
theorem store_of_assessed {report : Report} (hdistinct : Entries.Distinct entries)
    (htags : ListsWorkflow entries → TagsAre repository tags s)
    (h : List.Forall₂ (FileAssessed tags) entries report) :
    ∃ s', (store (.map kind entries) id repository).perform s =
      (.ok (Report.toValue Label.description report), s') := by
  have houtcome := perform_store (.map kind entries) id repository s
  rw [build_of_settled htags, (assessAll_ok hdistinct).mpr h] at houtcome
  exact ⟨_, Prod.ext houtcome rfl⟩

/-- A workflow that can be assessed has a stored report alone. -/
theorem store_single {file : Value} (htags : TagsAre repository tags s)
    (hkey : file.checkKey = .ok ()) (h : assess tags [] workflow = .ok report) :
    ∃ s', (store (.map .plain [(file, .plainList [workflow])]) id repository).perform s =
      (.ok (Report.toValue Label.description [(file, report)]), s') :=
  store_of_assessed (Entries.distinct_singleton _ _) (fun _ => htags)
    (.cons ⟨rfl, hkey, foldlM_assess_singleton.mpr h⟩ .nil)

/-- A stored report of a workflow alone is its assessment with the tags of the repository. -/
theorem store_single_ok {file : Value}
    (h : (store (.map .plain [(file, .plainList [workflow])]) id repository).perform s =
      (.ok content, s')) :
    ∃ tags report, TagsAre repository tags s ∧ assess tags [] workflow = .ok report ∧
      content = Report.toValue Label.description [(file, report)] := by
  obtain ⟨report, s₁, hbuild, rfl, -⟩ := perform_store_ok.mp h
  have hdistinct := Entries.distinct_singleton file (Value.plainList [workflow])
  have hlists : ListsWorkflow [(file, Value.plainList [workflow])] :=
    ⟨_, List.mem_cons_self, workflow, [], rfl⟩
  obtain ⟨tags, htags⟩ := tagsAre_of_build hdistinct hbuild hlists
  obtain ⟨⟨file', fileReport⟩, more, ⟨hfile, -, hassess⟩, hmore, rfl⟩ :=
    List.forall₂_cons_left_iff.mp (assessed_of_build hdistinct (fun _ => htags) hbuild)
  obtain rfl := List.forall₂_nil_left_iff.mp hmore
  obtain rfl : file' = file := hfile
  obtain ⟨items, hitems, hassess⟩ := bind_ok.mp hassess
  obtain rfl := pure_ok.mp hitems
  exact ⟨tags, fileReport, htags, foldlM_assess_singleton.mp hassess, rfl⟩

/-- The report of a workflow alone, if it has a trigger, has one entry, with its issues for the tags
of the repository. -/
theorem store_single_enters {file : Value} (htrigger : HasTrigger workflow)
    (h : (store (.map .plain [(file, .plainList [workflow])]) id repository).perform s =
      (.ok content, s')) :
    ∃ r trigger tags, Reads workflow r ∧ IsLastTrigger workflow trigger ∧
      TagsAre repository tags s ∧ (∀ use ∈ r.uses, ∃ verdict, useLabels tags use = .ok verdict) ∧
      content = Report.toValue Label.description
        [(file, [(r.name, ⟨trigger, r.issues tags⟩)])] := by
  obtain ⟨tags, report, htags, hassess, rfl⟩ := store_single_ok h
  obtain ⟨r, entered, hreads, hentered, hadded, hjudged⟩ := assess_ok hassess
  obtain ⟨trigger, hlast, rfl⟩ := entered_of_hasTrigger htrigger hreads hentered hadded
  exact ⟨r, trigger, tags, hreads, hlast, htags, hjudged, rfl⟩

/-- Every file has its place in a second mapping of files, with the same workflows. -/
def Covers (entries' entries : Entries) : Prop :=
  ∀ file listed, (file, listed) ∈ entries →
    ∃ listed', (file, listed') ∈ entries' ∧ Rearranged listed listed'

theorem Covers.listsWorkflow (h : Covers entries' entries) (hlists : ListsWorkflow entries) :
    ListsWorkflow entries' := by
  obtain ⟨⟨file, listed⟩, hfile, hlisted⟩ := hlists
  obtain ⟨listed', hfile', hrearranged⟩ := h file listed hfile
  exact ⟨(file, listed'), hfile', hrearranged.exists_cons hlisted⟩

/-- Where no file is added, each of the two mappings covers the other. -/
theorem Covers.symm (h : Covers entries' entries) (hdistinct' : Entries.Distinct entries')
    (hsame : ∀ file ∈ Entries.keys entries', file ∈ Entries.keys entries) :
    Covers entries entries' := by
  intro file listed' hfile'
  obtain ⟨⟨_, listed⟩, hfile, rfl⟩ := List.mem_map.mp (hsame file (List.mem_map_of_mem hfile'))
  obtain ⟨found, hfound, hrearranged⟩ := h _ listed hfile
  have hlookup := Entries.lookup?_of_mem hdistinct' hfile'
  rw [Entries.lookup?_of_mem hdistinct' hfound] at hlookup
  cases hlookup
  exact ⟨listed, hfile, hrearranged.symm⟩

/-- Files that are covered by assessed ones can be assessed. -/
theorem exists_assessed_of_covers {report : Report} (hdistinct : Entries.Distinct entries)
    (hcovers : Covers entries entries') (h : List.Forall₂ (FileAssessed tags) entries report) :
    ∃ report', List.Forall₂ (FileAssessed tags) entries' report' := by
  have hfiles : ∀ source ∈ entries', ∃ found, FileAssessed tags source found := by
    rintro ⟨file, listed'⟩ hfile
    obtain ⟨listed, hmem, hrearranged⟩ := hcovers file listed' hfile
    obtain ⟨fileReport, -, -, hkey, hassessed⟩ := exists_assessed hdistinct h hmem
    obtain ⟨fileReport', hassessed', -⟩ := assessFile_rearranged hrearranged.symm hassessed
    exact ⟨(file, fileReport'), rfl, hkey, hassessed'⟩
  clear hcovers
  induction entries' with
  | nil => exact ⟨[], .nil⟩
  | cons source rest ih =>
    obtain ⟨hfirst, hrest⟩ := List.forall_mem_cons.mp hfiles
    obtain ⟨found, hfound⟩ := hfirst
    obtain ⟨report', hreport'⟩ := ih hrest
    exact ⟨found :: report', .cons hfound hreport'⟩

/-- The entry of a workflow in a report, if there is one. -/
def entryUnder (file name : Value) (report : Report) : Option WorkflowReport :=
  (Entries.lookup? file report).bind (Entries.lookup? name)

/-- Two reports have the same entries for a file, in some order. -/
def SameEntries (file : Value) (report report' : Report) : Prop :=
  ∃ fileReport fileReport', Entries.lookup? file report = some fileReport ∧
    Entries.lookup? file report' = some fileReport' ∧ fileReport.Perm fileReport'

/-- A workflow that shares its name with no other of its file has a report alone, with the same
entry. -/
theorem stored_alone {report : Report} (hdistinct : Entries.Distinct entries)
    (hbuild : (build (fun _ => Release.tags repository) (.map kind entries)).perform s =
      (.ok report, s'))
    {file listed name : Value} {earlier later : List Value} (hfile : (file, listed) ∈ entries)
    (hlisted : listed.items = .ok (earlier ++ workflow :: later))
    (hname : workflow.field "name" = .ok name)
    (hapart : ∀ other ∈ earlier ++ later, Apart workflow other) :
    ∃ alone s₁, (store (.map .plain [(file, .plainList [workflow])]) id repository).perform s =
        (.ok (Report.toValue Label.description alone), s₁) ∧
      entryUnder file name alone = entryUnder file name report := by
  have hlists : ListsWorkflow entries := by
    refine ⟨(file, listed), hfile, ?_⟩
    cases earlier with
    | nil => exact ⟨_, _, hlisted⟩
    | cons first rest => exact ⟨_, _, hlisted⟩
  obtain ⟨tags, htags⟩ := tagsAre_of_build hdistinct hbuild hlists
  have hassessed := assessed_of_build hdistinct (fun _ => htags) hbuild
  obtain ⟨fileReport, hfound, hkey, hassess⟩ :=
    exists_assessed_workflows hdistinct hassessed hfile hlisted
  obtain ⟨alone, halone, hlookup⟩ := lookup?_of_apart hassess hname hapart
  obtain ⟨s₁, hstored⟩ := store_single htags hkey halone
  refine ⟨_, s₁, hstored, ?_⟩
  unfold entryUnder
  rw [hfound, Entries.lookup?_singleton]
  exact hlookup.symm

/-- Files that are rearranged, and no others, have a report as well. -/
theorem stored_rearranged {report : Report} (hdistinct : Entries.Distinct entries)
    (hbuild : (build (fun _ => Release.tags repository) (.map kind entries)).perform s =
      (.ok report, s'))
    (hdistinct' : Entries.Distinct entries') (hcovers : Covers entries entries') :
    ∃ content s₁, (store (.map kind' entries') id repository).perform s = (.ok content, s₁) := by
  obtain ⟨tags, htags⟩ := exists_tags_of_build hdistinct hbuild
  obtain ⟨report', hassessed⟩ := exists_assessed_of_covers hdistinct hcovers
    (assessed_of_build hdistinct htags hbuild)
  -- a workflow that asks for tags is also there among the files as they were
  obtain ⟨s₁, hstored⟩ := store_of_assessed hdistinct'
    (fun hlists => htags (hcovers.listsWorkflow hlists)) hassessed
  exact ⟨_, s₁, hstored⟩

/-- Two reports, of which the second covers the files of the first, have the same entries for
these. -/
theorem sameEntries_of_covers {report report' : Report} {s₁ s₂ : Session}
    (hdistinct : Entries.Distinct entries) (hdistinct' : Entries.Distinct entries')
    (hcovers : Covers entries' entries)
    (hbuild : (build (fun _ => Release.tags repository) (.map kind entries)).perform s =
      (.ok report, s₁))
    (hbuild' : (build (fun _ => Release.tags repository) (.map kind' entries')).perform s =
      (.ok report', s₂))
    {file : Value} (hfile : file ∈ Entries.keys entries) : SameEntries file report report' := by
  obtain ⟨tags, htags⟩ := exists_tags_of_build hdistinct' hbuild'
  have hassessed' := assessed_of_build hdistinct' htags hbuild'
  have hassessed := assessed_of_build hdistinct
    (fun hlists => htags (hcovers.listsWorkflow hlists)) hbuild
  obtain ⟨⟨_, listed⟩, hmem, rfl⟩ := List.mem_map.mp hfile
  obtain ⟨listed', hmem', hrearranged⟩ := hcovers _ listed hmem
  obtain ⟨fileReport, hfound, -, -, hassess⟩ := exists_assessed hdistinct hassessed hmem
  obtain ⟨fileReport', hfound', -, -, hassess'⟩ := exists_assessed hdistinct' hassessed' hmem'
  obtain ⟨_, hrearranged', hperm⟩ := assessFile_rearranged hrearranged hassess
  obtain rfl := Except.ok.inj (hassess'.symm.trans hrearranged')
  exact ⟨fileReport, fileReport', hfound, hfound', hperm⟩

/-- **Workflows are assessed independently.**  Take a report that was stored.  A workflow that
shares its name with no other of its file could have been alone, in the same session: the report of
it alone is stored, too, and has the same entry for it or none as well.  Nor does a file depend on
the order of its workflows, if all their names differ, on the order of the files, or on other files:
with these rearranged, a report is stored again, and with more files it is stored unless one of them
fails, and what it says of each file has the same entries. -/
theorem workflows_assessed_independently (hdistinct : Entries.Distinct entries)
    (h : (store (.map kind entries) id repository).perform s = (.ok content, s')) :
    ∃ report, content = Report.toValue Label.description report ∧
      (∀ file listed earlier workflow later name, (file, listed) ∈ entries →
        listed.items = .ok (earlier ++ workflow :: later) → workflow.field "name" = .ok name →
        (∀ other ∈ earlier ++ later, Apart workflow other) →
          ∃ alone s₁,
            (store (.map .plain [(file, .plainList [workflow])]) id repository).perform s =
              (.ok (Report.toValue Label.description alone), s₁) ∧
            entryUnder file name alone = entryUnder file name report) ∧
      ∀ kind' entries', Entries.Distinct entries' → Covers entries' entries →
        ((∀ file ∈ Entries.keys entries', file ∈ Entries.keys entries) →
          ∃ content' s₁, (store (.map kind' entries') id repository).perform s =
            (.ok content', s₁)) ∧
        ∀ content' s₁, (store (.map kind' entries') id repository).perform s = (.ok content', s₁) →
          ∃ report', content' = Report.toValue Label.description report' ∧
            ∀ file ∈ Entries.keys entries, SameEntries file report report' := by
  obtain ⟨report, s₁, hbuild, hcontent, -⟩ := perform_store_ok.mp h
  refine ⟨report, hcontent, ?_, fun kind' entries' hdistinct' hcovers => ⟨fun hsame => ?_, ?_⟩⟩
  · intro file listed earlier workflow later name hfile hlisted hname hapart
    exact stored_alone hdistinct hbuild hfile hlisted hname hapart
  · exact stored_rearranged hdistinct hbuild hdistinct' (hcovers.symm hdistinct' hsame)
  · intro content' s₂ h'
    obtain ⟨report', s₃, hbuild', hcontent', -⟩ := perform_store_ok.mp h'
    exact ⟨report', hcontent', fun file hfile =>
      sameEntries_of_covers hdistinct hdistinct' hcovers hbuild hbuild' hfile⟩

end Stored

/-! ### Two workflows in one file -/

/-- A workflow with one job, which has no permissions and does nothing. -/
def bareWorkflow (name : Value) (job : String) : Value :=
  .record [("name", name),
    ("events", .plainList [.record [("type", .text "push"), ("security_rank", .int 1)]]),
    ("permissions", .text "None"),
    ("jobs", .record [(job, .record [("permissions", .null), ("steps", .plainList [])])])]

theorem apart_bareWorkflow {name name' : Value} (h : name.equal name' = false)
    (h' : name'.equal name = false) (job job' : String) :
    Apart (bareWorkflow name job) (bareWorkflow name' job') :=
  apart_of_names rfl rfl h h'

/-- A file with two workflows. -/
def buildThenTest : Entries :=
  [(.text "ci.yml", .plainList [bareWorkflow (.text "a") "build", bareWorkflow (.text "b") "test"])]

/-- The same file in the other order, next to one without workflows. -/
def testThenBuild : Entries :=
  [(.text "none.yml", .plainList []),
    (.text "ci.yml", .plainList [bareWorkflow (.text "b") "test",
      bareWorkflow (.text "a") "build"])]

/-- The law at a file with two workflows: the second alone has the entry that it has behind the
first, and in the other order both have the same entries. -/
theorem two_workflows_independent :
    ∃ report alone report' s₁ s₂ s₃,
      (store (.map .plain buildThenTest) (.text "id1") (.text "own/repo")).perform untaggedSession =
        (.ok (Report.toValue Label.description report), s₁) ∧
      (store (.map .plain [(.text "ci.yml", .plainList [bareWorkflow (.text "b") "test"])])
          (.text "id1") (.text "own/repo")).perform untaggedSession =
        (.ok (Report.toValue Label.description alone), s₂) ∧
      entryUnder (.text "ci.yml") (.text "b") alone = entryUnder (.text "ci.yml")
        (.text "b") report ∧
      (store (.map .plain testThenBuild) (.text "id1") (.text "own/repo")).perform untaggedSession =
        (.ok (Report.toValue Label.description report'), s₃) ∧
      SameEntries (.text "ci.yml") report report' := by
  have hok : ((store (.map .plain buildThenTest) (.text "id1") (.text "own/repo")).perform
      untaggedSession).1.isOk = true := by decide +kernel
  have hok' : ((store (.map .plain testThenBuild) (.text "id1") (.text "own/repo")).perform
      untaggedSession).1.isOk = true := by decide +kernel
  obtain ⟨content, s₁, hrun⟩ := exists_of_isOk hok
  obtain ⟨content', s₃, hrun'⟩ := exists_of_isOk hok'
  have hapart : Apart (bareWorkflow (.text "b") "test") (bareWorkflow (.text "a") "build") :=
    apart_bareWorkflow (by decide) (by decide) "test" "build"
  obtain ⟨report, rfl, halone, hrearranged⟩ :=
    workflows_assessed_independently (Entries.distinct_singleton _ _) hrun
  obtain ⟨alone, s₂, hstored, hentry⟩ := halone _ _ [bareWorkflow (.text "a") "build"]
    (bareWorkflow (.text "b") "test") [] (.text "b") List.mem_cons_self rfl rfl
    (List.forall_mem_singleton.mpr hapart)
  have hdistinct : Entries.Distinct testThenBuild := Entries.distinct_cons.mpr
    ⟨List.forall_mem_singleton.mpr (by decide), Entries.distinct_singleton _ _⟩
  have hcovers : Covers testThenBuild buildThenTest := by
    intro file listed hfile
    obtain ⟨rfl, rfl⟩ := Prod.mk.inj (List.mem_singleton.mp hfile)
    exact ⟨_, List.mem_cons_of_mem _ List.mem_cons_self, _, _, rfl, rfl,
      .inr ⟨List.Perm.swap _ _ _, List.pairwise_pair.mpr ⟨hapart.2, hapart.1⟩⟩⟩
  obtain ⟨-, hsame⟩ := hrearranged .plain testThenBuild hdistinct hcovers
  obtain ⟨report', rfl, hentries⟩ := hsame content' s₃ hrun'
  exact ⟨report, alone, report', s₁, s₂, s₃, hrun, hstored, hentry, hrun',
    hentries (.text "ci.yml") List.mem_cons_self⟩

end Report

end WorkflowAudit
