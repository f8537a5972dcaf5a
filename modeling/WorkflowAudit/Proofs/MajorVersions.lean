import WorkflowAudit.Operation
import WorkflowAudit.Proofs.ScriptFindings

/-! # Up to date by the major number

Whether an action is up to date is found out in several ways: references to the main branch are,
versions of one major number are, other versions are compared in full, and texts that are no
versions have to be the same.  All of it comes to one comparison.  Versions are ordered by their
major numbers first, so the full comparison is made only where these differ, and there they decide
it (`Version.isAtLeast_iff_of_major_ne`).

`up_to_date_by_major` says so of every use of an action, in every session in which its release is
found.  The minor number and the patch of a version never matter, and its identifiers only in that
one that is too long a number spoils the comparison of different major numbers.
-/
namespace WorkflowAudit

open Audit

/-! ## Parts of a text -/

namespace Text

theorem afterLast_eq (separator : Char) (text : List Char) :
    afterLast separator text = (text.splitOn separator).getLastD [] := by
  unfold afterLast
  rw [pieces_eq_splitOn]

theorem beforeFirst_eq (separator : Char) (text : List Char) :
    beforeFirst separator text = (text.splitOn separator).headD [] := by
  rw [← pieces_eq_splitOn]
  induction text with
  | nil => rfl
  | cons c text ih =>
    unfold beforeFirst at ih ⊢
    rw [pieces]
    by_cases h : c = separator
    · rw [if_pos h, List.takeWhile_cons, if_neg (by simp [h])]
      rfl
    · rw [if_neg h, List.takeWhile_cons, if_pos (by simp [h]), ih]
      cases hpieces : pieces separator text with
      | nil => exact absurd hpieces (pieces_ne_nil separator text)
      | cons piece rest => rfl

end Text

/-! ## Major numbers -/

namespace Version

variable {v w : Version} {text digits : List Char} {n : Nat}

/-- The number that a text begins with. -/
def leadingNumber (text : List Char) : Nat :=
  Text.digitsValue (text.takeWhile Text.isDigit)

theorem getD_leadingNumbers (count : Nat) (text : List Char) :
    (leadingNumbers (count + 1) text).1.getD 0 [] = text.takeWhile Text.isDigit := by
  rw [leadingNumbers]
  split
  · next hnone => exact (List.isEmpty_iff.mp hnone).symm
  · split
    · split <;> rfl
    · rfl

theorem eq_digitsValue_of_number? (h : number? digits = some n) : n = Text.digitsValue digits := by
  unfold number? at h
  split at h
  · cases h
  · exact (Option.some.inj h).symm

/-- The major number of a version is the one that its text begins with. -/
theorem major_of_coerce? (h : coerce? text = some v) : v.major = leadingNumber text := by
  have hfirst := getD_leadingNumbers 2 text
  unfold coerce? at h
  split at h
  · cases h
  · next numbers rest _ hnumbers =>
    obtain ⟨major, hmajor, h⟩ := Option.bind_eq_some_iff.mp h
    obtain ⟨minor, -, h⟩ := Option.bind_eq_some_iff.mp h
    obtain ⟨patch, -, h⟩ := Option.bind_eq_some_iff.mp h
    obtain ⟨release, -, h⟩ := Option.bind_eq_some_iff.mp h
    obtain ⟨build, -, h⟩ := Option.bind_eq_some_iff.mp h
    rw [hnumbers] at hfirst
    have hvalue : major = leadingNumber text := by
      rw [leadingNumber, ← hfirst]
      exact eq_digitsValue_of_number? hmajor
    split at h
    · cases h
    · obtain rfl := Option.some.inj h
      exact hvalue

theorem isAtLeast_of_major_lt (h : w.major < v.major) : v.isAtLeast w = true := by
  have hgt : compare v.major w.major = .gt := Nat.compare_eq_gt.mpr h
  unfold isAtLeast order
  rw [hgt]
  rfl

theorem isAtLeast_of_lt_major (h : v.major < w.major) : v.isAtLeast w = false := by
  have hlt : compare v.major w.major = .lt := Nat.compare_eq_lt.mpr h
  unfold isAtLeast order
  rw [hlt]
  rfl

/-- Versions of different major numbers are ordered by them. -/
theorem isAtLeast_iff_of_major_ne (h : w.major ≠ v.major) :
    v.isAtLeast w = true ↔ w.major ≤ v.major := by
  rcases Nat.lt_or_gt_of_ne h with hlt | hgt
  · exact iff_of_true (isAtLeast_of_major_lt hlt) hlt.le
  · rw [isAtLeast_of_lt_major hgt]
    exact iff_of_false Bool.false_ne_true hgt.not_ge

/-- A version that is at least as new has no smaller major number. -/
theorem major_le_of_isAtLeast (h : v.isAtLeast w = true) : w.major ≤ v.major := by
  by_contra hlt
  rw [isAtLeast_of_lt_major (Nat.lt_of_not_le hlt)] at h
  cases h

/-- Two versions that can both be compared. -/
def AreComparable (v w : Version) : Prop :=
  v.isComparable = true ∧ w.isComparable = true

end Version

namespace Release

variable {use use' : String} {current current' : Bool} {s t t' : Session}

/-! ## A reference and the newest tag -/

/-- How a reference compares with the newest tag. -/
structure ComparesMajors (reference newest : List Char) (current : Bool) : Prop where
  /-- Of two versions the major numbers are compared, which are those that the texts begin with.
  If the versions cannot be compared, the major numbers have to be equal. -/
  versions {used known : Version} (hused : Version.coerce? reference = some used)
    (hknown : Version.coerce? newest = some known) :
    (current = true ↔ known.major ≤ used.major ∧
      (used.AreComparable known ∨ known.major = used.major)) ∧
      used.major = Version.leadingNumber reference ∧ known.major = Version.leadingNumber newest
  /-- A version is not compared with anything else. -/
  one_version (h : (Version.coerce? reference).isSome ≠ (Version.coerce? newest).isSome) :
    current = false
  /-- Other texts are compared as they are. -/
  no_version (hused : Version.coerce? reference = none) (hknown : Version.coerce? newest = none) :
    current = true ↔ reference = newest

theorem comparesMajors_isCurrent (reference newest : List Char) :
    ComparesMajors reference newest (isCurrent reference newest) := by
  constructor
  · intro used known hused hknown
    refine ⟨?_, Version.major_of_coerce? hused, Version.major_of_coerce? hknown⟩
    unfold isCurrent
    rw [hused, hknown]
    dsimp only
    -- the shortcut for one major number takes the only case that the full comparison would spoil
    by_cases hmajor : known.major = used.major
    · rw [if_pos hmajor]
      exact iff_of_true rfl ⟨hmajor.le, .inr hmajor⟩
    · rw [if_neg hmajor, Bool.and_eq_true, Bool.and_eq_true,
        Version.isAtLeast_iff_of_major_ne hmajor, or_iff_left hmajor, and_comm]
      rfl
  · intro h
    unfold isCurrent
    cases hused : Version.coerce? reference with
    | none =>
      cases hknown : Version.coerce? newest with
      | none => simp [hused, hknown] at h
      | some known => rfl
    | some used =>
      cases hknown : Version.coerce? newest with
      | none => rfl
      | some known => simp [hused, hknown] at h
  · intro hused hknown
    unfold isCurrent
    rw [hused, hknown]
    dsimp only
    rw [beq_iff_eq]
    exact eq_comm

/-! ## Uses of actions -/

/-- The action that a use names: what stands before its first `@`. -/
def actionOf (use : String) : Value :=
  .ofChars ((use.toList.splitOn '@').headD [])

/-- The reference of a use: what stands behind its last `@`, without any `v`. -/
def referenceOf (use : String) : List Char :=
  ((use.toList.splitOn '@').getLastD []).filter (· ≠ 'v')

/-- The newest tag as it is compared, without any `v`. -/
def newestOf (tag : Value) : List Char :=
  tag.displayed.filter (· ≠ 'v')

/-- A reference that follows the main branch. -/
def FollowsMain (reference : List Char) : Prop :=
  reference = "master".toList ∨ reference = "main".toList

theorem reference_eq (use : String) : reference use.toList = referenceOf use := by
  unfold reference referenceOf
  rw [Text.afterLast_eq]

theorem isMainBranch_iff (reference : List Char) :
    isMainBranch reference = true ↔ FollowsMain reference := by
  unfold isMainBranch FollowsMain
  rw [Bool.or_eq_true, beq_iff_eq, beq_iff_eq]

/-- The main branch is no version. -/
theorem not_followsMain_of_coerce? {reference : List Char} {used : Version}
    (h : Version.coerce? reference = some used) : ¬ FollowsMain reference := by
  have hnone : Version.coerce? "master".toList = none ∧ Version.coerce? "main".toList = none :=
    ⟨rfl, rfl⟩
  rintro (rfl | rfl)
  · rw [hnone.1] at h
    cases h
  · rw [hnone.2] at h
    cases h

theorem perform_isUpToDate_of_main (h : FollowsMain (referenceOf use)) (s : Session) :
    (Operation.isUpToDate (.text use)).run.perform s = (.ok (.bool true), s) := by
  have hmain : isMainBranch (reference use.toList) = true := by
    rw [reference_eq, isMainBranch_iff]
    exact h
  show (isUpToDate (.text use) >>= fun found => pure (Value.bool found)).perform s = _
  refine perform_bind_ok.mpr ⟨true, s, ?_, rfl⟩
  unfold isUpToDate
  refine perform_bind_ok.mpr ⟨use.toList, s, rfl, ?_⟩
  dsimp only
  rw [if_pos hmain]
  rfl

/-- Any other use is compared with the tag of the newest release, which has to be found. -/
theorem run_isUpToDate (h : ¬ FollowsMain (referenceOf use)) :
    (Operation.isUpToDate (.text use)).run =
      (Operation.release .extractor (actionOf use)).run >>= fun release =>
        Audit.check (release.itemNamed "tag_name" >>= Value.shown) >>= fun newest =>
          pure (Value.bool (isCurrent (referenceOf use) (newest.filter (· ≠ 'v')))) := by
  have hmain : ¬ isMainBranch (reference use.toList) = true := by
    rw [reference_eq, isMainBranch_iff]
    exact h
  have haction : Value.ofChars (Text.beforeFirst '@' use.toList) = actionOf use := by
    rw [Text.beforeFirst_eq]
    rfl
  show isUpToDate (.text use) >>= (fun found => pure (Value.bool found)) = _
  unfold isUpToDate
  show (pure use.toList >>= _) >>= _ = _
  rw [pure_bind]
  dsimp only
  rw [if_neg hmain, bind_assoc, haction]
  refine bind_congr fun release => ?_
  rw [bind_assoc]
  refine bind_congr fun newest => ?_
  rw [pure_bind, reference_eq]

variable {release tag : Value}

theorem perform_isUpToDate_of_tag (h : ¬ FollowsMain (referenceOf use))
    (hrelease : (Operation.release .extractor (actionOf use)).run.perform s = (.ok release, t))
    (htag : release.itemNamed "tag_name" = .ok tag) (hshown : tag.isShowable = true) :
    (Operation.isUpToDate (.text use)).run.perform s =
      (.ok (.bool (isCurrent (referenceOf use) (newestOf tag))), t) := by
  have hnewest : (release.itemNamed "tag_name" >>= Value.shown) = .ok tag.displayed :=
    bind_ok.mpr ⟨tag, htag, Value.shown_of_isShowable hshown⟩
  rw [run_isUpToDate h]
  exact perform_bind_ok.mpr ⟨release, t, hrelease,
    perform_bind_ok.mpr ⟨tag.displayed, t, perform_check_ok.mpr ⟨hnewest, rfl⟩, rfl⟩⟩

theorem perform_isUpToDate_of_long_tag (h : ¬ FollowsMain (referenceOf use))
    (hrelease : (Operation.release .extractor (actionOf use)).run.perform s = (.ok release, t))
    (htag : release.itemNamed "tag_name" = .ok tag) (hlong : tag.isShowable = false) :
    (Operation.isUpToDate (.text use)).run.perform s = (.error .longInteger, t) := by
  have hnewest : (release.itemNamed "tag_name" >>= Value.shown) = .error .longInteger := by
    rw [htag]
    exact Value.shown_of_not_isShowable hlong
  rw [run_isUpToDate h, perform_bind, hrelease]
  dsimp only
  rw [hnewest]
  rfl

/-- A use by a version that is found up to date or not was compared with the tag that is found. -/
theorem comparesMajors_of_run {used : Version}
    (hused : Version.coerce? (referenceOf use) = some used)
    (hrelease : (Operation.release .extractor (actionOf use)).run.perform s = (.ok release, t))
    (htag : release.itemNamed "tag_name" = .ok tag)
    (h : (Operation.isUpToDate (.text use)).run.perform s = (.ok (.bool current), t')) :
    ComparesMajors (referenceOf use) (newestOf tag) current := by
  have hmain := not_followsMain_of_coerce? hused
  cases hshown : tag.isShowable with
  | false => cases h.symm.trans (perform_isUpToDate_of_long_tag hmain hrelease htag hshown)
  | true =>
    cases h.symm.trans (perform_isUpToDate_of_tag hmain hrelease htag hshown)
    exact comparesMajors_isCurrent _ _

/-- **An action is up to date by its major number.**  A use whose reference follows the main branch
is up to date, and nothing is looked up.  For any other use let the lookup of its action, which
stands before the first `@`, find a release with a tag.  If the tag cannot be turned into text, the
question fails.  Otherwise let the reference, which stands behind the last `@`, and the tag be taken
without any `v`.  If both are versions, the use is up to date exactly when its major number is at
least that of the tag, and equal to it if the versions cannot be compared; if one of them is, it is
not; and if none is, it is when both are the same text.  So of two uses of an action by versions of
one major number, which can both be compared or both not, both are up to date or none, and, as long
as they and the tag can be compared, a use by a newer version is up to date if the older one is. -/
theorem up_to_date_by_major (s : Session) (use : String) :
    (FollowsMain (referenceOf use) →
      (Operation.isUpToDate (.text use)).run.perform s = (.ok (.bool true), s)) ∧
    (¬ FollowsMain (referenceOf use) → ∀ release tag t,
      (Operation.release .extractor (actionOf use)).run.perform s = (.ok release, t) →
      release.itemNamed "tag_name" = .ok tag →
        (tag.isShowable = true →
          ∃ current, (Operation.isUpToDate (.text use)).run.perform s = (.ok (.bool current), t) ∧
            ComparesMajors (referenceOf use) (newestOf tag) current) ∧
        (tag.isShowable = false →
          (Operation.isUpToDate (.text use)).run.perform s = (.error .longInteger, t))) ∧
    (∀ use' used used' release tag current current' t u u', actionOf use' = actionOf use →
      Version.coerce? (referenceOf use) = some used →
      Version.coerce? (referenceOf use') = some used' →
      (Operation.release .extractor (actionOf use)).run.perform s = (.ok release, t) →
      release.itemNamed "tag_name" = .ok tag →
      (Operation.isUpToDate (.text use)).run.perform s = (.ok (.bool current), u) →
      (Operation.isUpToDate (.text use')).run.perform s = (.ok (.bool current'), u') →
        (used'.major = used.major → used'.isComparable = used.isComparable → current' = current) ∧
        (used'.isAtLeast used = true →
          (∀ known, Version.coerce? (newestOf tag) = some known → used'.AreComparable known) →
          current = true → current' = true)) := by
  refine ⟨fun hmain => perform_isUpToDate_of_main hmain s, ?_, ?_⟩
  · intro hmain release tag t hrelease htag
    exact ⟨fun hshown => ⟨_, perform_isUpToDate_of_tag hmain hrelease htag hshown,
        comparesMajors_isCurrent _ _⟩,
      perform_isUpToDate_of_long_tag hmain hrelease htag⟩
  · intro use' used used' release tag current current' t u u' haction hused hused'
      hrelease htag h h'
    have hcompares := comparesMajors_of_run hused hrelease htag h
    have hcompares' := comparesMajors_of_run hused' (haction ▸ hrelease) htag h'
    cases hknown : Version.coerce? (newestOf tag) with
    | none =>
      -- a tag that is no version makes every version out of date
      have hcurrent : current = false := hcompares.one_version (by simp [hused, hknown])
      have hcurrent' : current' = false := hcompares'.one_version (by simp [hused', hknown])
      rw [hcurrent, hcurrent']
      exact ⟨fun _ _ => rfl, fun _ _ h => h⟩
    | some known =>
      obtain ⟨hcurrent, -⟩ := hcompares.versions hused hknown
      obtain ⟨hcurrent', -⟩ := hcompares'.versions hused' hknown
      constructor
      · intro hmajor hcomparable
        rw [Bool.eq_iff_iff, hcurrent, hcurrent', hmajor, Version.AreComparable,
          Version.AreComparable, hcomparable]
      · intro hnewer hcomparable hold
        have hle := Version.major_le_of_isAtLeast hnewer
        exact hcurrent'.mpr ⟨(hcurrent.mp hold).1.trans hle, .inl (hcomparable known rfl)⟩

/-- A session that knows a release of an action. -/
def releasedSession : Session :=
  { store := [(releaseCache, [.record [("name", .text "own/act"), ("tag_name", .text "v3.5.1")]])] }

/-- The law at uses of an action whose newest release is `v3.5.1`: that of the main branch is up to
date, that of `v3` is by its major number, and so is that of `v10-rc`, which is newer. -/
theorem up_to_date_with_same_major :
    (Operation.isUpToDate (.text "own/act@main")).run.perform releasedSession =
      (.ok (.bool true), releasedSession) ∧
    (∃ t, (Operation.isUpToDate (.text "own/act@v3")).run.perform releasedSession =
      (.ok (.bool true), t)) ∧
    ∃ t, (Operation.isUpToDate (.text "own/act@v10-rc")).run.perform releasedSession =
      (.ok (.bool true), t) := by
  have hrelease : ((Operation.release .extractor (actionOf "own/act@v3")).run.perform
      releasedSession).1.toOption.any (fun release =>
        (release.itemNamed "tag_name").toOption.any fun tag => tag.isShowable &&
          (Version.coerce? (newestOf tag)).any fun known =>
            known.major == 3 && known.isComparable) = true := by decide +kernel
  have hversions : (Version.coerce? (referenceOf "own/act@v3")).any (fun used =>
      (Version.coerce? (referenceOf "own/act@v10-rc")).any fun used' =>
        used.major == 3 && used'.isComparable && used'.isAtLeast used) = true := by decide +kernel
  have hfollows : FollowsMain (referenceOf "own/act@main") := .inr (by decide +kernel)
  have haction : actionOf "own/act@v10-rc" = actionOf "own/act@v3" :=
    congrArg Value.ofChars (by decide +kernel)
  obtain ⟨release, t, hrun, hrelease⟩ := exists_of_any hrelease
  obtain ⟨tag, htag, hrelease⟩ := exists_ok_of_any hrelease
  obtain ⟨hshown, hknown⟩ := Bool.and_eq_true_iff.mp hrelease
  obtain ⟨known, hknown, hthree⟩ := (Option.any_eq_true _ _).mp hknown
  obtain ⟨hmajor, hcomparable⟩ := Bool.and_eq_true_iff.mp hthree
  obtain ⟨used, hused, hversions⟩ := (Option.any_eq_true _ _).mp hversions
  obtain ⟨used', hused', hversions⟩ := (Option.any_eq_true _ _).mp hversions
  obtain ⟨hversions, hnewer⟩ := Bool.and_eq_true_iff.mp hversions
  obtain ⟨hmajor', hcomparable'⟩ := Bool.and_eq_true_iff.mp hversions
  have hequal : known.major = used.major := by
    rw [beq_iff_eq.mp hmajor, beq_iff_eq.mp hmajor']
  obtain ⟨hmain, -, -⟩ := up_to_date_by_major releasedSession "own/act@main"
  obtain ⟨-, hcompared, hmonotone⟩ := up_to_date_by_major releasedSession "own/act@v3"
  obtain ⟨-, hcompared', -⟩ := up_to_date_by_major releasedSession "own/act@v10-rc"
  obtain ⟨current, hcurrent, hcompares⟩ :=
    (hcompared (not_followsMain_of_coerce? hused) release tag t hrun htag).1 hshown
  obtain ⟨current', hcurrent', -⟩ :=
    (hcompared' (not_followsMain_of_coerce? hused') release tag t (haction ▸ hrun) htag).1 hshown
  obtain rfl : current = true :=
    (hcompares.versions hused hknown).1.mpr ⟨hequal.le, .inr hequal⟩
  have hboth : ∀ other, Version.coerce? (newestOf tag) = some other →
      used'.AreComparable other := by
    intro other hother
    obtain rfl := Option.some.inj (hknown.symm.trans hother)
    exact ⟨hcomparable', hcomparable⟩
  obtain rfl : current' = true :=
    (hmonotone _ used used' release tag _ _ _ _ _ haction hused hused' hrun htag hcurrent
      hcurrent').2 hnewer hboth rfl
  exact ⟨hmain hfollows, ⟨t, hcurrent⟩, ⟨t, hcurrent'⟩⟩

/-- A use by a version of major number 5 whose release identifier is too long a number. -/
def longUse : List Char :=
  "own/act@v5-".toList ++ List.replicate (Text.digitLimit + 1) '9'

theorem actionOf_longUse : actionOf (String.ofList longUse) = .text "own/act" := by
  have haction : Text.beforeFirst '@' longUse = "own/act".toList := by decide +kernel
  rw [actionOf, String.toList_ofList, ← Text.beforeFirst_eq, haction]
  rfl

-- the reference has some thousands of characters, and the version is read from all of them
set_option maxRecDepth 100000 in
theorem coerce?_longUse : (Version.coerce? (reference longUse)).any
    (fun used => used.major == 5 && !used.isComparable) = true := by
  decide +kernel

/-- A use by a newer major version can be out of date: here `v5`, with too long a number as a
release identifier, where the newest release is `v3.5.1`. -/
theorem newer_major_out_of_date :
    ∃ release tag used known t,
      (Operation.release .extractor (actionOf (String.ofList longUse))).run.perform
        releasedSession = (.ok release, t) ∧
      release.itemNamed "tag_name" = .ok tag ∧
      Version.coerce? (referenceOf (String.ofList longUse)) = some used ∧
      Version.coerce? (newestOf tag) = some known ∧ known.major < used.major ∧
      (Operation.isUpToDate (.text (String.ofList longUse))).run.perform releasedSession =
        (.ok (.bool false), t) := by
  have hrelease : ((Operation.release .extractor (.text "own/act")).run.perform
      releasedSession).1.toOption.any (fun release =>
        (release.itemNamed "tag_name").toOption.any fun tag => tag.isShowable &&
          (Version.coerce? (newestOf tag)).any fun known => known.major == 3) = true := by
    decide +kernel
  obtain ⟨release, t, hrun, hrelease⟩ := exists_of_any hrelease
  obtain ⟨tag, htag, hrelease⟩ := exists_ok_of_any hrelease
  obtain ⟨hshown, hrelease⟩ := Bool.and_eq_true_iff.mp hrelease
  obtain ⟨known, hknown, hthree⟩ := (Option.any_eq_true _ _).mp hrelease
  obtain ⟨used, hused, hfive⟩ := (Option.any_eq_true _ _).mp coerce?_longUse
  obtain ⟨hfive, hlong⟩ := Bool.and_eq_true_iff.mp hfive
  rw [← String.toList_ofList (l := longUse), reference_eq] at hused
  rw [← actionOf_longUse] at hrun
  have hless : known.major < used.major := by
    rw [beq_iff_eq.mp hthree, beq_iff_eq.mp hfive]
    decide
  have hout : isCurrent (referenceOf (String.ofList longUse)) (newestOf tag) = false := by
    rw [← Bool.not_eq_true, ((comparesMajors_isCurrent _ _).versions hused hknown).1]
    rintro ⟨-, ⟨hcomparable, -⟩ | hequal⟩
    · rw [hcomparable] at hlong
      cases hlong
    · exact hless.ne hequal
  refine ⟨release, tag, used, known, t, hrun, htag, hused, hknown, hless, ?_⟩
  rw [← hout]
  exact perform_isUpToDate_of_tag (not_followsMain_of_coerce? hused) hrun htag hshown

end Release

end WorkflowAudit
