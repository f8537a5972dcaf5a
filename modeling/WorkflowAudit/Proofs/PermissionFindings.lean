import WorkflowAudit.Proofs.ExposurePattern
import WorkflowAudit.Proofs.Independence
import WorkflowAudit.Proofs.Shapes

/-! # What is found about permissions

The permissions of a workflow and those of its jobs go different ways from a document to a report.
Those of the workflow are written out as a text, and the text for null says that there are none;
those of a job are handed on as they are, and whatever counts as false says that there are none.

The first way is right: the text for null is that of no other value (`Value.written_eq_none`).  The
second is not.  Permissions can be declared and still count as false, like the empty mapping, by
which a job gives up all of them (`Value.isHollow`).

`permission_findings_exact` says of every workflow with a trigger, from its text to its stored
report, which of its jobs are reported and how, and that this is as it should be exactly when no job
has such permissions.
-/
namespace WorkflowAudit

open Audit

/-! ## The text for null -/

namespace Text

theorem not_mem_decimalDigits {c : Char} (h : c.isDigit = false) (n : Nat) :
    c ∉ decimalDigits n := by
  intro hmem
  rw [Nat.isDigit_of_mem_toDigits (by decide) (by decide) hmem] at h
  cases h

theorem not_mem_integerText (n : Int) : 'N' ∉ integerText n := by
  have hdigits : 'N' ∉ decimalDigits n.natAbs := not_mem_decimalDigits rfl _
  unfold integerText
  split
  · simpa using hdigits
  · exact hdigits

/-- A text that begins with what is to be replaced begins with what takes its place. -/
theorem replaceAll_append {needle : List Char} (h : needle ≠ []) (substitute rest : List Char) :
    ∃ more, replaceAll needle substitute (needle ++ rest) = substitute ++ more := by
  cases needle with
  | nil => exact absurd rfl h
  | cons c needle =>
    have hstarts : startsWith (c :: needle) (c :: (needle ++ rest)) = true :=
      startsWith_iff.mpr ⟨rest, rfl⟩
    rw [replaceAll, List.cons_append, replaceFrom, if_pos hstarts]
    exact ⟨_, rfl⟩

end Text

namespace Decimal

theorem not_mem_shortestDigits (mantissa : Nat) (exponent : Int) :
    'N' ∉ (shortestDigits mantissa exponent).digits := by
  intro hmem
  have hwritten := (List.dropWhile_suffix _).subset (List.mem_reverse.mp hmem)
  exact Text.not_mem_decimalDigits rfl _ (List.mem_reverse.mp hwritten)

theorem Digits.not_mem_text {d : Digits} (h : 'N' ∉ d.digits) : 'N' ∉ d.text := by
  have hpadded : ∀ n, 'N' ∉ Text.paddedDigits 2 n := by
    intro n
    have hdigits := Text.not_mem_decimalDigits (c := 'N') rfl n
    simp [Text.paddedDigits, hdigits]
  have htake : ∀ n, 'N' ∉ d.digits.take n := fun n hmem => h (List.mem_of_mem_take hmem)
  have hdrop : ∀ n, 'N' ∉ d.digits.drop n := fun n hmem => h (List.mem_of_mem_drop hmem)
  unfold Digits.text
  dsimp only
  split
  · split
    · simp [h]
    · split <;> simp [htake, hdrop]
  · have htail : ∀ n,
        'N' ∉ 'e' :: (if d.point - 1 < 0 then '-' else '+') :: Text.paddedDigits 2 n := by
      intro n
      split <;> simp [hpadded]
    split
    · exact htail _
    · rename_i c hdigits
      rw [hdigits, List.mem_singleton] at h
      exact fun hmem => (List.mem_cons.mp hmem).elim h (htail _)
    · rename_i c rest _ hdigits
      rw [hdigits, List.mem_cons, not_or] at h
      rw [List.mem_append, not_or, List.mem_cons, not_or, List.mem_cons, not_or]
      exact ⟨⟨h.1, by decide, h.2⟩, htail _⟩

theorem not_mem_floatText (x : Float) : 'N' ∉ floatText x := by
  unfold floatText
  split
  · decide
  · split <;> decide
  · rename_i negative mantissa exponent _
    have hmagnitude : 'N' ∉ if mantissa = 0 then "0.0".toList
        else (shortestDigits mantissa exponent).text := by
      split
      · decide
      · exact Digits.not_mem_text (not_mem_shortestDigits mantissa exponent)
    dsimp only
    split
    · simpa using hmagnitude
    · exact hmagnitude

end Decimal

namespace Value

theorem head?_applied {name : String} {c : Char} (h : name.toList.head? = some c)
    (arguments : List (List Char)) : (applied name arguments).head? = some c := by
  unfold applied
  cases hname : name.toList with
  | nil =>
    rw [hname] at h
    cases h
  | cons d rest =>
    rw [hname] at h
    exact h

theorem head?_writtenPairs {name : String} {c : Char} (h : name.toList.head? = some c)
    (entries : List (List Char × List Char)) : (writtenPairs name entries).head? = some c := by
  unfold writtenPairs
  split
  · exact head?_applied h _
  · exact head?_applied h _

/-- The name of a document mapping is replaced where it stands first. -/
theorem head?_written_document (entries : Entries) :
    (written (.map .document entries)).head? = some 'o' := by
  obtain ⟨rest, hrest⟩ : ∃ rest, writtenPairs "CommentedMap" (writtenEntries entries) =
      "CommentedMap".toList ++ rest := by
    unfold writtenPairs applied
    split
    · exact ⟨_, List.append_assoc _ _ _⟩
    · exact ⟨_, List.append_assoc _ _ _⟩
  obtain ⟨more, hmore⟩ :=
    Text.replaceAll_append (by decide : "CommentedMap".toList ≠ []) "ordereddict".toList rest
  show (Text.replaceAll _ _ (writtenPairs "CommentedMap" (writtenEntries entries))).head? = some 'o'
  rw [hrest, hmore, List.head?_append_of_ne_nil _ (by decide)]
  decide

/-- The text for null is that of no other value. -/
theorem written_eq_none {v : Value} : v.written = "None".toList ↔ v = .null := by
  constructor
  · intro h
    -- a text of digits and signs alone does not have the letter, and any other begins otherwise
    have hletter : 'N' ∈ v.written := h ▸ (by decide)
    have hhead : ∀ c, v.written.head? = some c → c = 'N' := by
      intro c hc
      rw [h] at hc
      exact (Option.some.inj hc).symm
    cases v with
    | null => rfl
    | bool b => cases b <;> exact absurd hletter (by decide)
    | int n => exact absurd hletter (Text.not_mem_integerText n)
    | float x => exact absurd hletter (Decimal.not_mem_floatText x)
    | text s =>
      have hquote := hhead (Text.quoteFor s.toList) rfl
      unfold Text.quoteFor at hquote
      split at hquote <;> exact absurd hquote (by decide)
    | bytes bs => exact absurd (hhead 'b' rfl) (by decide)
    | date d => exact absurd (hhead 'd' (head?_applied (by decide) _)) (by decide)
    | moment m =>
      cases hzoned : m.zoned with
      | true =>
        refine absurd (hhead 'T' ?_) (by decide)
        show (writtenMoment m).head? = some 'T'
        rw [writtenMoment, if_pos hzoned]
        exact head?_applied (by decide) _
      | false =>
        refine absurd (hhead 'd' ?_) (by decide)
        show (writtenMoment m).head? = some 'd'
        rw [writtenMoment, if_neg (by simp [hzoned])]
        exact head?_applied (by decide) _
    | list kind items =>
      cases kind with
      | plain | document => exact absurd (hhead '[' rfl) (by decide)
      | fixed =>
        refine absurd (hhead '(' ?_) (by decide)
        show (writtenGroup (writtenItems items)).head? = some '('
        unfold writtenGroup
        split <;> rfl
    | map kind entries =>
      cases kind with
      | plain => exact absurd (hhead '\x7b' rfl) (by decide)
      | document => exact absurd (hhead 'o' (head?_written_document entries)) (by decide)
      | ordered => exact absurd (hhead 'C' (head?_writtenPairs (by decide) _)) (by decide)
      | fixed => exact absurd (hhead 'o' (head?_writtenPairs (by decide) _)) (by decide)
    | set members => exact absurd (hhead 's' (head?_applied (by decide) _)) (by decide)
    | tagged tag content =>
      have hmark : "<ruamel.yaml.comments.TaggedScalar object>".toList.head? = some '<' := by decide
      exact absurd (hhead '<' hmark) (by decide)
  · rintro rfl
    rfl

/-- Permissions that are declared and count as false. -/
def isHollow (permissions : Value) : Bool := !permissions.isNull && !permissions.isTruthy

end Value

/-! ## From a document to a record -/

namespace Extraction

variable {workflowCondition source : Value} {s s' : Session}

/-- The jobs of a record have the permissions of their sources. -/
theorem permissions_of_jobEntries {entries : Entries} {found : List (Value × JobRecord)}
    (h : (jobEntries workflowCondition entries).perform s = (.ok found, s')) :
    (found.map fun job => (job.1, job.2.permissions)) =
      entries.map fun job => (job.1, job.2.under "permissions") := by
  induction entries generalizing found s with
  | nil =>
    obtain ⟨rfl, -⟩ := perform_pure_ok.mp h
    rfl
  | cons entry rest ih =>
    obtain ⟨id, source⟩ := entry
    obtain ⟨record, s₁, hfirst, h⟩ := perform_bind_ok.mp h
    obtain ⟨others, s₂, hrest, h⟩ := perform_bind_ok.mp h
    obtain ⟨rfl, rfl⟩ := perform_pure_ok.mp h
    rw [List.map_cons, List.map_cons, ih hrest, (job_ok hfirst).1]

theorem permissions_of_headingOf {heading : Heading} (h : headingOf source = .ok heading) :
    heading.permissions = (source.under "permissions").written := by
  obtain ⟨name, -, h⟩ := bind_ok.mp h
  obtain ⟨permissions, hpermissions, h⟩ := bind_ok.mp h
  obtain ⟨text, htext, h⟩ := bind_ok.mp h
  obtain ⟨conditional, -, h⟩ := bind_ok.mp h
  obtain rfl := pure_ok.mp h
  rw [Value.under_of_field hpermissions]
  exact (Value.represented_ok.mp htext).2.symm

/-- What the reader of permissions finds in an extracted workflow is what its document declares,
that of the workflow as a text. -/
theorem Extracted.permissions {record : WorkflowRecord} {found : List (Value × JobRecord)}
    (h : Extracted source record found s s') :
    Findings.permissions record.toValue = .ok ⟨.ofChars (source.under "permissions").written,
      source.jobsIn.map fun job => (job.1, job.2.under "permissions")⟩ := by
  obtain ⟨heading, triggers, on, rfl, hheading, -⟩ := h.parts
  obtain ⟨entries, s₁, hcheck, hjobs⟩ := perform_bind_ok.mp h.jobs
  have hentries := Value.entriesIn_of_entriesFor (perform_check_ok.mp hcheck).1
  rw [entriesIn_jobSources] at hentries
  rw [Findings.permissions_wholeValue, permissions_of_jobEntries hjobs,
    permissions_of_headingOf hheading, hentries]

end Extraction

/-! ## From a record to an entry -/

namespace Report

variable {workflow tags : Value}

/-- The label for a job without permissions: whether its workflow declares some. -/
def declarationLabel (workflow : Value) : Label :=
  if (workflow.under "permissions").isNull then .noDeclaration else .onlyWorkflowDeclaration

/-- The label that a job should get: declared permissions count, whatever they are. -/
def meantLabel? (workflow job : Value) : Option Label :=
  if (job.under "permissions").isNull then some (declarationLabel workflow) else none

/-- The label that a job gets: permissions that count as false do not count. -/
def givenLabel? (workflow job : Value) : Option Label :=
  if (job.under "permissions").isTruthy then none else some (declarationLabel workflow)

/-- The issues of the jobs of a workflow that get a label, in order. -/
def labelled (label? : Value → Value → Option Label) (workflow : Value) : List Issue :=
  workflow.jobsIn.filterMap fun job => (label? workflow job.2).map (Issue.about job.1)

/-- A label is about permissions. -/
def isPermissionLabel : Label → Bool
  | .noDeclaration | .onlyWorkflowDeclaration => true
  | .outOfDate | .notPinned => false

/-- An issue is about permissions. -/
def isPermissionIssue : Issue → Bool
  | .exposure _ _ => false
  | .about _ label => isPermissionLabel label

theorem permissionLabel_ofChars_written (permissions : Value) (jobs : Entries) :
    permissionLabel ⟨.ofChars permissions.written, jobs⟩ =
      if permissions.isNull then .noDeclaration else .onlyWorkflowDeclaration := by
  have hnone : (Value.ofChars permissions.written).equal (.text "None") = true ↔
      permissions.isNull = true := by
    rw [Value.ofChars, Value.text_equal_iff, Value.text.injEq]
    constructor
    · intro h
      have hwritten : permissions.written = "None".toList := by rw [h, String.toList_ofList]
      rw [Value.written_eq_none.mp hwritten]
      rfl
    · intro h
      rw [Value.eq_null_of_isNull h]
      exact (String.ofList_toList).symm
  unfold permissionLabel
  by_cases h : permissions.isNull = true
  · rw [if_pos h, if_pos (hnone.mpr h)]
  · rw [if_neg h, if_neg (mt hnone.mp h)]

/-- The issues of jobs without permissions, from what a document declares. -/
theorem permissionIssues_eq_labelled (workflow : Value) :
    permissionIssues ⟨.ofChars (workflow.under "permissions").written,
        workflow.jobsIn.map fun job => (job.1, job.2.under "permissions")⟩ =
      labelled givenLabel? workflow := by
  unfold permissionIssues labelled
  rw [permissionLabel_ofChars_written]
  show _ = workflow.jobsIn.filterMap fun job =>
    (if (job.2.under "permissions").isTruthy then none else
      some (declarationLabel workflow)).map (Issue.about job.1)
  generalize workflow.jobsIn = jobs
  induction jobs with
  | nil => rfl
  | cons job rest ih =>
    cases htruthy : (job.2.under "permissions").isTruthy with
    | true => simpa [htruthy] using ih
    | false => simpa [htruthy, declarationLabel] using ih

theorem isPermissionIssue_about (job : Value) (permissions : Findings.Permissions) :
    isPermissionIssue (.about job (permissionLabel permissions)) = true := by
  unfold permissionLabel
  split <;> rfl

/-- A use of an action gives other labels. -/
theorem isPermissionIssue_of_useIssues {use : Findings.ActionUse} {issue : Issue}
    (h : issue ∈ useIssues tags use) : isPermissionIssue issue = false := by
  unfold useIssues at h
  split at h
  · rename_i labels announced hlabels
    obtain ⟨label, hlabel, rfl⟩ := List.mem_map.mp h
    show isPermissionLabel label = false
    rw [useLabels_eq] at hlabels
    obtain ⟨text, -, hlabels⟩ := bind_ok.mp hlabels
    obtain ⟨pinned, -, hlabels⟩ := bind_ok.mp hlabels
    have hothers : ∀ label ∈ labels, label = .outOfDate ∨ label = .notPinned := by
      split at hlabels
      · obtain ⟨newest, -, hlabels⟩ := bind_ok.mp hlabels
        split at hlabels <;> cases pure_ok.mp hlabels <;> simp
      · split at hlabels <;> cases pure_ok.mp hlabels <;> simp
    rcases hothers label hlabel with rfl | rfl <;> rfl
  · cases h

/-- Of the issues of a workflow, those about permissions are those of its jobs without
permissions. -/
theorem filter_isPermissionIssue {r : Reading} (h : Reads workflow r) (tags : Value) :
    (r.issues tags).filter isPermissionIssue = permissionIssues r.permissions := by
  have hexposed : r.exposed.filter isPermissionIssue = [] := by
    rcases exposures_ok h.exposed with ⟨-, hnone⟩ | ⟨_, _, _, _, _, _, _, _, _, hboth⟩
    · rw [hnone]
      rfl
    · rw [hboth]
      rfl
  have hpermissions : (permissionIssues r.permissions).filter isPermissionIssue =
      permissionIssues r.permissions := by
    refine List.filter_eq_self.mpr fun issue hissue => ?_
    obtain ⟨job, -, rfl⟩ := List.mem_map.mp hissue
    exact isPermissionIssue_about job.1 r.permissions
  have huses : (r.uses.flatMap (useIssues tags)).filter isPermissionIssue = [] := by
    refine List.filter_eq_nil_iff.mpr fun issue hissue => ?_
    obtain ⟨use, -, huse⟩ := List.mem_flatMap.mp hissue
    rw [isPermissionIssue_of_useIssues huse]
    exact Bool.false_ne_true
  rw [Reading.issues, List.filter_append, List.filter_append, hexposed, hpermissions, huses,
    List.append_nil, List.nil_append]

/-- A job gets the label it should get, unless its permissions are hollow: then it gets one where it
should get none. -/
theorem givenLabel?_cases (workflow job : Value) :
    givenLabel? workflow job = meantLabel? workflow job ∧
      (job.under "permissions").isHollow = false ∨
      ((givenLabel? workflow job).isSome = true ∧ meantLabel? workflow job = none) ∧
        (job.under "permissions").isHollow = true := by
  unfold Value.isHollow givenLabel? meantLabel?
  cases hnull : (job.under "permissions").isNull with
  | true =>
    rw [Value.eq_null_of_isNull hnull]
    exact .inl ⟨rfl, rfl⟩
  | false =>
    cases (job.under "permissions").isTruthy with
    | true => exact .inl ⟨rfl, rfl⟩
    | false => exact .inr ⟨⟨rfl, rfl⟩, rfl⟩

section Choices

variable {α β : Type} {f g : α → Option β}

/-- A choice that leaves out some of what another one keeps has no more. -/
theorem length_filterMap_le (h : ∀ a, f a = g a ∨ (f a).isSome = true ∧ g a = none)
    (items : List α) : (items.filterMap g).length ≤ (items.filterMap f).length := by
  induction items with
  | nil => exact Nat.le_refl _
  | cons a rest ih =>
    rcases h a with hsame | ⟨hsome, hnone⟩
    · rw [List.filterMap_cons, List.filterMap_cons, hsame]
      cases g a with
      | none => exact ih
      | some b => exact Nat.succ_le_succ ih
    · obtain ⟨b, hb⟩ := Option.isSome_iff_exists.mp hsome
      rw [List.filterMap_cons_some hb, List.filterMap_cons_none hnone]
      exact Nat.le_succ_of_le ih

/-- Both keep the same only if nothing is left out. -/
theorem filterMap_eq_iff (h : ∀ a, f a = g a ∨ (f a).isSome = true ∧ g a = none) (items : List α) :
    items.filterMap f = items.filterMap g ↔ ∀ a ∈ items, f a = g a := by
  constructor
  · intro heq
    induction items with
    | nil => exact List.forall_mem_nil _
    | cons a rest ih =>
      rcases h a with hsame | ⟨hsome, hnone⟩
      · refine List.forall_mem_cons.mpr ⟨hsame, ih ?_⟩
        rw [List.filterMap_cons, List.filterMap_cons, hsame] at heq
        cases hg : g a with
        | none =>
          rw [hg] at heq
          exact heq
        | some b =>
          rw [hg] at heq
          exact (List.cons.inj heq).2
      · -- the first one keeps one more, and from the rest no fewer
        obtain ⟨b, hb⟩ := Option.isSome_iff_exists.mp hsome
        rw [List.filterMap_cons_some hb, List.filterMap_cons_none hnone] at heq
        have hcount := congrArg List.length heq
        have hrest := length_filterMap_le h rest
        rw [List.length_cons] at hcount
        omega
  · intro hsame
    exact List.filterMap_congr hsame

end Choices

/-- The labels are those that the jobs should get exactly when no job has hollow permissions. -/
theorem labelled_eq_iff (workflow : Value) :
    labelled givenLabel? workflow = labelled meantLabel? workflow ↔
      ∀ job ∈ workflow.jobsIn, (job.2.under "permissions").isHollow = false := by
  unfold labelled
  rw [filterMap_eq_iff fun job => ?_]
  · refine forall₂_congr fun job _ => ?_
    rcases givenLabel?_cases workflow job.2 with ⟨hsame, hsolid⟩ | ⟨⟨hsome, hnone⟩, hhollow⟩
    · exact iff_of_true (congrArg _ hsame) hsolid
    · rw [hnone, hhollow]
      refine iff_of_false (fun hsame => ?_) (fun h => (by cases h))
      rw [Option.map_none, Option.map_eq_none_iff] at hsame
      rw [hsame] at hsome
      cases hsome
  · rcases givenLabel?_cases workflow job.2 with ⟨hsame, -⟩ | ⟨⟨hsome, hnone⟩, -⟩
    · exact .inl (congrArg _ hsame)
    · exact .inr ⟨by rw [Option.isSome_map, hsome], by rw [hnone]; rfl⟩

/-- The report of a workflow alone, if it has a trigger, has one entry with its issues. -/
theorem exists_entry_of_store {file id repository content : Value} {s s' : Session}
    (htrigger : HasTrigger workflow)
    (h : (store (.map .plain [(file, .plainList [workflow])]) id repository).perform s =
      (.ok content, s')) :
    ∃ r trigger tags, Reads workflow r ∧
      content = Report.toValue Label.description
        [(file, [(r.name, ⟨trigger, r.issues tags⟩)])] := by
  obtain ⟨r, trigger, tags, hreads, -, -, -, hcontent⟩ := store_single_enters htrigger h
  exact ⟨r, trigger, tags, hreads, hcontent⟩

/-- A label about permissions is there when a job gets it. -/
theorem about_mem_iff {issues : List Issue}
    (h : issues.filter isPermissionIssue = labelled givenLabel? workflow) {job : Value}
    {label : Label}
    (hlabel : isPermissionLabel label = true) :
    .about job label ∈ issues ↔
      ∃ found, (job, found) ∈ workflow.jobsIn ∧ givenLabel? workflow found = some label := by
  have hkept : .about job label ∈ issues ↔ .about job label ∈ issues.filter isPermissionIssue := by
    rw [List.mem_filter, and_iff_left]
    exact hlabel
  rw [hkept, h, labelled, List.mem_filterMap]
  constructor
  · rintro ⟨⟨job', found⟩, hmem, hfound⟩
    obtain ⟨label', hlabel', he⟩ := Option.map_eq_some_iff.mp hfound
    cases he
    exact ⟨found, hmem, hlabel'⟩
  · rintro ⟨found, hmem, hfound⟩
    exact ⟨(job, found), hmem, Option.map_eq_some_iff.mpr ⟨label, hfound, rfl⟩⟩

/-- **Permissions that count as false are reported as missing.**  Let a workflow with jobs and a
trigger be extracted from a text, in any session, and let a report of it alone be stored, in any
session.  The report has one entry, and of its issues, those about permissions are those of the jobs
whose permissions do not count as true, in order.  Their label says whether the workflow has
permissions, and for this all but null counts.  They are the issues that should be there exactly
when no job has permissions that are declared and count as false. -/
theorem permission_findings_exact {text : String} {s s' t t' : Session}
    {out file id repository content : Value}
    (h : (Operation.extractWorkflow (.text text)).run.perform s = (.ok out, s'))
    (hjobs : ¬ out.Lacks "jobs") (htrigger : HasTrigger out)
    (hstore : (store (.map .plain [(file, .plainList [out])]) id repository).perform t =
      (.ok content, t')) :
    ∃ source name entry, Yaml.load text.toList = .ok source ∧ out.field "name" = .ok name ∧
      content = Report.toValue Label.description [(file, [(name, entry)])] ∧
      entry.issues.filter isPermissionIssue = labelled givenLabel? source ∧
      (∀ job label, isPermissionLabel label = true → (.about job label ∈ entry.issues ↔
        ∃ found, (job, found) ∈ source.jobsIn ∧ givenLabel? source found = some label)) ∧
      (entry.issues.filter isPermissionIssue = labelled meantLabel? source ↔
        ∀ job ∈ source.jobsIn, (job.2.under "permissions").isHollow = false) := by
  obtain ⟨source, record, found, rfl, hsource, hextracted⟩ := Extraction.exists_extracted h hjobs
  obtain ⟨r, trigger, tags, hreads, hcontent⟩ := exists_entry_of_store htrigger hstore
  have hpermissions : r.permissions = _ :=
    Except.ok.inj (hreads.permissions.symm.trans hextracted.permissions)
  have hissues : (r.issues tags).filter isPermissionIssue = labelled givenLabel? source := by
    rw [filter_isPermissionIssue hreads, hpermissions, permissionIssues_eq_labelled]
  refine ⟨source, r.name, ⟨trigger, r.issues tags⟩, hsource, hreads.name, hcontent, hissues,
    fun job label hlabel => about_mem_iff hissues hlabel, ?_⟩
  rw [hissues, labelled_eq_iff]

/-! ### A job that gives up its permissions -/

/-- A workflow whose job gives up all permissions. -/
def givenUpText : String :=
  "\x7bname: wf, on: push, jobs: \x7bjob: \x7bpermissions: \x7b\x7d\x7d\x7d\x7d"

/-- The law there: the issues about permissions are not those that should be there. -/
theorem givenUp_permissions_differ :
    ∃ out s' content t' source name entry,
      (Operation.extractWorkflow (.text givenUpText)).run.perform {} = (.ok out, s') ∧
      ¬ out.Lacks "jobs" ∧ HasTrigger out ∧
      (store (.map .plain (oneFile out)) (.text "id1") (.text "own/repo")).perform untaggedSession =
        (.ok content, t') ∧
      Yaml.load givenUpText.toList = .ok source ∧
      content = Report.toValue Label.description [(.text "own/repo", [(name, entry)])] ∧
      entry.issues.filter isPermissionIssue = labelled givenLabel? source ∧
      entry.issues.filter isPermissionIssue ≠ labelled meantLabel? source := by
  have hout : ((Operation.extractWorkflow (.text givenUpText)).run.perform {}).1.toOption.any
      (fun out => (Entries.field? "jobs" (Report.entriesIn out)).isSome &&
        ((out.field "events" >>= eventList).toOption.any fun events => !events.isEmpty) &&
        ((store (.map .plain (oneFile out)) (.text "id1") (.text "own/repo")).perform
          untaggedSession).1.isOk) = true := by decide +kernel
  have hhollow : (Yaml.load givenUpText.toList).toOption.any (fun source =>
      source.jobsIn.any fun job => (job.2.under "permissions").isHollow) = true := by decide +kernel
  obtain ⟨out, s', hrun, hout⟩ := exists_of_any hout
  obtain ⟨hout, hok⟩ := Bool.and_eq_true_iff.mp hout
  obtain ⟨hsome, hevents⟩ := Bool.and_eq_true_iff.mp hout
  have hjobs : ¬ out.Lacks "jobs" := Option.isSome_iff_ne_none.mp hsome
  have htrigger : HasTrigger out := by
    obtain ⟨list, hlist, hne⟩ := exists_ok_of_any hevents
    obtain ⟨events, hfield, hlist⟩ := bind_ok.mp hlist
    cases list with
    | nil => cases hne
    | cons event more => exact ⟨events, event, more, hfield, hlist⟩
  obtain ⟨content, t', hstore⟩ := exists_of_isOk hok
  obtain ⟨source, name, entry, hsource, -, hcontent, hgiven, -, hmeant⟩ :=
    permission_findings_exact hrun hjobs htrigger hstore
  rw [hsource] at hhollow
  obtain ⟨job, hjob, hhollow⟩ := List.any_eq_true.mp hhollow
  refine ⟨out, s', content, t', source, name, entry, hrun, hjobs, htrigger, hstore, hsource,
    hcontent, hgiven, fun hsame => ?_⟩
  rw [hmeant.mp hsame job hjob] at hhollow
  cases hhollow

/-- A job that declares the empty mapping of permissions is reported as one that declares none. -/
theorem empty_permissions_reported :
    Value.equalItems (((Batch.run Batch.takeOne).perform
        (Batch.textSession givenUpText [] [])).2.store.documents storedReports)
      [document (.text "id1") (Report.toValue Label.description [(.text "ci.yml",
        [(.text "wf", ⟨(.text "push", .int 1), [.about (.text "job") .noDeclaration]⟩)])])] =
          true := by
  decide +kernel

end Report

end WorkflowAudit
