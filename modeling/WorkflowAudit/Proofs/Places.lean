import Mathlib.Data.List.Infix
import WorkflowAudit.Proofs.Runs

/-! # Places of files

A written path leads to a place, and a text that is written to the path changes this place and no
other (`Files.lookup?_of_writeText`).  The same path leads there again: so a text that is written
over another one leaves no trace of it (`Files.writeText_again`).
-/
namespace WorkflowAudit

namespace Files

variable {files : Files} {place other : Path}

/-- A place for a file: a name in a directory, below directories only, and none itself. -/
def IsPlace (files : Files) (place : Path) : Prop :=
  files.lookup? place ≠ some .directory ∧ ∃ parent name, place = parent ++ [name] ∧
    ∀ above, above <+: parent → files.lookup? above = some .directory

/-- What following a path leads to is a place for a file, if it is no directory. -/
def Target.Placed (files : Files) : Target → Prop
  | .found place file => file = .directory ∨ IsPlace files place
  | .free place => IsPlace files place
  | .failed _ => True

theorem placed_follow {here : Path} (components : List String)
    (hhere : ∀ above, above <+: here → files.lookup? above = some .directory) :
    (files.follow here components).Placed files := by
  induction components generalizing here with
  | nil => exact .inl rfl
  | cons component rest ih =>
    have hplace : files.lookup? (here ++ [component]) ≠ some .directory →
        IsPlace files (here ++ [component]) := fun hlookup => ⟨hlookup, here, component, rfl, hhere⟩
    unfold follow
    split
    · exact ih hhere
    · split
      · exact ih fun above habove => hhere above (habove.trans (List.dropLast_prefix here))
      · dsimp only
        split
        · rename_i hfound
          refine ih fun above habove => ?_
          -- the new directory itself was looked up just now
          rcases List.prefix_concat_iff.mp habove with rfl | habove
          · exact hfound
          · exact hhere above habove
        · rename_i file hfile hfound
          split
          · refine .inr (hplace fun hlookup => hfile ?_)
            exact Option.some.inj (hfound.symm.trans hlookup)
          · trivial
        · rename_i hfound
          split
          · exact hplace fun hlookup => (by cases hfound.symm.trans hlookup)
          · trivial

theorem placed_target (files : Files) (path : String) : (files.target path).Placed files := by
  unfold target
  dsimp only
  split
  · trivial
  · refine placed_follow _ fun above habove => ?_
    obtain rfl := List.prefix_nil.mp habove
    rfl

/-- A written path leads to a place, which is free or filled. -/
def LeadsTo (files : Files) (path : String) (place : Path) : Prop :=
  files.target path = .free place ∨ ∃ file, files.target path = .found place file

/-- A text that could be written is at the place that its path leads to. -/
theorem writeText_ok {path : String} {text : List Char} {written : Files}
    (h : files.writeText path text = .ok written) :
    ∃ place, files.LeadsTo path place ∧ IsPlace files place ∧
      written = files.put place (.bytes (Text.encodeUtf8 text)) := by
  have hplaced := placed_target files path
  unfold writeText at h
  split at h
  · cases h
  · split at h
    · split at h <;> cases h
    · split at h
      · cases h
      · rename_i place file hfile htarget
        obtain rfl := pure_ok.mp h
        rw [htarget] at hplaced
        exact ⟨place, .inr ⟨file, htarget⟩, hplaced.resolve_left fun he => hfile he, rfl⟩
      · rename_i place htarget
        obtain rfl := pure_ok.mp h
        rw [htarget] at hplaced
        exact ⟨place, .inl htarget, hplaced, rfl⟩
      · cases h

theorem IsPlace.ne_nil (h : IsPlace files place) : place ≠ [] := by
  obtain ⟨-, parent, name, rfl, -⟩ := h
  exact List.append_ne_nil_of_right_ne_nil parent (List.cons_ne_nil name [])

theorem lookup?_put_self (files : Files) (file : File) (h : place ≠ []) :
    (files.put place file).lookup? place = some file := by
  have hnone : (files.filter (·.1 != place)).find? (·.1 == place) = none := by
    simp
  simp [lookup?, put, h, List.find?_append, hnone]

/-- Whether a file lies below a directory. -/
def liesBelow (directory : Path) (entry : Path × File) : Bool :=
  directory.length < entry.1.length && entry.1.take directory.length == directory

/-- A path leads to what was put there, or else to a directory above something. -/
theorem lookup?_eq (files : Files) {path : Path} (h : path ≠ []) :
    files.lookup? path = ((files.find? (·.1 == path)).map (·.2)).or
      (if files.any (liesBelow path) then some .directory else none) := by
  unfold lookup?
  rw [if_neg (by simpa using h)]
  cases files.find? (·.1 == path) with
  | none => rfl
  | some entry => rfl

theorem find?_put_of_ne (files : Files) (file : File) (h : other ≠ place) :
    (files.put place file).find? (·.1 == other) = files.find? (·.1 == other) := by
  have hlast : ((place, file).1 == other) = false := beq_eq_false_iff_ne.mpr h.symm
  unfold put
  rw [List.find?_append, List.find?_filter, List.find?_cons_of_neg (by simp [hlast]),
    List.find?_nil, Option.or_none]
  congr 1
  funext entry
  by_cases he : entry.1 = other
  · simp [he, h]
  · simp [he]

/-- What lies below a directory that is not above a place does so without the file put there. -/
theorem any_liesBelow_put (files : Files) {file : File}
    (h : liesBelow other (place, file) = false) :
    (files.put place file).any (liesBelow other) = files.any (liesBelow other) := by
  unfold put
  rw [List.any_append, List.any_filter, List.any_cons, h, List.any_nil, Bool.or_false,
    Bool.or_false]
  congr 1
  funext entry
  by_cases he : entry.1 = place
  · have hentry : liesBelow other entry = false := by
      unfold liesBelow at h ⊢
      rwa [he]
    simp [hentry]
  · simp [he]

/-- A file that is put at a place changes nothing but this place, since the directories above it
were there before. -/
theorem lookup?_put_of_ne (file : File) (hplace : IsPlace files place) (h : other ≠ place) :
    (files.put place file).lookup? other = files.lookup? other := by
  by_cases hnil : other = []
  · subst hnil
    rfl
  rw [lookup?_eq _ hnil, find?_put_of_ne files file h]
  cases hbelow : liesBelow other (place, file) with
  | false => rw [any_liesBelow_put files hbelow, lookup?_eq _ hnil]
  | true =>
    obtain ⟨-, parent, name, rfl, habove⟩ := hplace
    obtain ⟨hlength, htake⟩ := Bool.and_eq_true_iff.mp hbelow
    have hle : other.length ≤ parent.length := by
      simpa [Nat.lt_succ_iff] using of_decide_eq_true hlength
    have hprefix : other <+: parent := by
      have heq : (parent ++ [name]).take other.length = other := eq_of_beq htake
      rw [List.take_append_of_le_length hle] at heq
      exact heq ▸ List.take_prefix _ _
    have hdirectory := habove other hprefix
    rw [hdirectory]
    have hany : (files.put (parent ++ [name]) file).any (liesBelow other) = true :=
      List.any_eq_true.mpr ⟨_, List.mem_append_right _ List.mem_cons_self, hbelow⟩
    rw [hany, if_pos rfl]
    rw [lookup?_eq _ hnil] at hdirectory
    cases hfind : files.find? (·.1 == other) with
    | none => rfl
    | some entry =>
      rw [hfind] at hdirectory
      exact hdirectory

/-- **Writing a text changes one place.**  The text is at the place that the path leads to, and
every other place is as it was. -/
theorem lookup?_of_writeText {path : String} {text : List Char} {written : Files}
    (h : files.writeText path text = .ok written) :
    ∃ place, files.LeadsTo path place ∧
      written.lookup? place = some (.bytes (Text.encodeUtf8 text)) ∧
      ∀ other, other ≠ place → written.lookup? other = files.lookup? other := by
  obtain ⟨place, hleads, hplace, rfl⟩ := writeText_ok h
  exact ⟨place, hleads, lookup?_put_self files _ hplace.ne_nil,
    fun other hother => lookup?_put_of_ne _ hplace hother⟩

/-! ## Writing again -/

/-- The components that led to a place lead there again once a file was put there. -/
theorem follow_put {file : File} (hfile : file ≠ .directory) (hplace : IsPlace files place)
    {here : Path} {components : List String}
    (h : files.follow here components = .free place ∨
      ∃ found, files.follow here components = .found place found ∧ found ≠ .directory) :
    (files.put place file).follow here components = .found place file := by
  induction components generalizing here with
  | nil =>
    rcases h with h | ⟨found, h, hfound⟩
    · cases h
    · cases h
      exact absurd rfl hfound
  | cons component rest ih =>
    unfold follow at h ⊢
    split
    · rename_i hstays
      simp only [if_pos hstays] at h
      exact ih h
    · rename_i hstays
      simp only [if_neg hstays] at h
      split
      · rename_i hup
        simp only [if_pos hup] at h
        exact ih h
      · rename_i hup
        simp only [if_neg hup] at h
        dsimp only
        by_cases hhere : here ++ [component] = place
        · -- this is the place: it was free, or a file stood there, and nothing follows
          rw [hhere] at h ⊢
          rw [lookup?_put_self files file hplace.ne_nil]
          have hrest : rest.isEmpty = true := by
            by_contra hmore
            cases hlookup : files.lookup? place with
            | none => simp [hlookup, hmore] at h
            | some found =>
              cases found with
              | directory => exact hplace.1 hlookup
              | bytes content => simp [hlookup, hmore] at h
              | saved value => simp [hlookup, hmore] at h
          cases file with
          | directory => exact absurd rfl hfile
          | bytes content => simp [hrest]
          | saved value => simp [hrest]
        · rw [lookup?_put_of_ne file hplace hhere]
          cases hlookup : files.lookup? (here ++ [component]) with
          | none => cases rest <;> simp [hlookup, hhere] at h
          | some found =>
            rw [hlookup] at h
            cases found with
            | directory => exact ih h
            | bytes content => cases rest <;> simp [hhere] at h
            | saved value => cases rest <;> simp [hhere] at h

theorem put_put (files : Files) (place : Path) (file later : File) :
    (files.put place file).put place later = files.put place later := by
  simp [put, List.filter_append]

theorem target_put {path : String} {file : File} (hfile : file ≠ .directory)
    (hplace : IsPlace files place)
    (h : files.target path = .free place ∨
      ∃ found, files.target path = .found place found ∧ found ≠ .directory) :
    (files.put place file).target path = .found place file := by
  unfold target at h ⊢
  dsimp only at h ⊢
  split
  · rename_i hoff
    simp only [if_pos hoff] at h
    rcases h with h | ⟨found, h, -⟩ <;> cases h
  · rename_i hoff
    rw [if_neg hoff] at h
    exact follow_put hfile hplace h

/-- Whether a path can be written to does not depend on the text. -/
theorem writeText_of_error {path : String} {text : List Char} {failure : Failure}
    (h : files.writeText path text = .error failure) (other : List Char) :
    files.writeText path other = .error failure := by
  unfold writeText at h ⊢
  split at h
  · rename_i hnull
    rwa [if_pos hnull]
  · rename_i hnull
    rw [if_neg hnull]
    split at h
    · rename_i hslash
      rwa [if_pos hslash]
    · rename_i hslash
      rw [if_neg hslash]
      split at h
      · exact h
      · cases h
      · cases h
      · exact h

theorem exists_writeText {path : String} {text : List Char} {written : Files}
    (h : files.writeText path text = .ok written) (other : List Char) :
    ∃ written', files.writeText path other = .ok written' := by
  cases hother : files.writeText path other with
  | ok written' => exact ⟨written', rfl⟩
  | error failure => cases h.symm.trans (writeText_of_error hother text)

/-- **A text that is written over another one leaves no trace of it.** -/
theorem writeText_again {path : String} {text : List Char} {written : Files}
    (h : files.writeText path text = .ok written) (later : List Char) :
    written.writeText path later = files.writeText path later := by
  obtain ⟨place, hleads, hplace, rfl⟩ := writeText_ok h
  have hbytes : File.bytes (Text.encodeUtf8 text) ≠ .directory := fun he => (by cases he)
  unfold writeText at h ⊢
  split at h
  · cases h
  · rename_i hnull
    split at h
    · split at h <;> cases h
    · rename_i hslash
      rw [if_neg hnull, if_neg hslash, if_neg hnull, if_neg hslash]
      rcases hleads with hfree | ⟨file, hfound⟩
      · rw [target_put hbytes hplace (.inl hfree), hfree]
        exact congrArg Except.ok (put_put files place _ _)
      · rw [hfound] at h
        cases file with
        | directory => cases h
        | bytes content =>
          rw [target_put hbytes hplace (.inr ⟨_, hfound, fun he => (by cases he)⟩), hfound]
          exact congrArg Except.ok (put_put files place _ _)
        | saved value =>
          rw [target_put hbytes hplace (.inr ⟨_, hfound, fun he => (by cases he)⟩), hfound]
          exact congrArg Except.ok (put_put files place _ _)

end Files

/-! ## Files in a run -/

namespace Audit

theorem perform_readSaved (path : String) (s : Session) :
    (readSaved path).perform s = (s.files.readSaved path, s) := by
  unfold readSaved
  rw [perform_bind, perform_get]
  exact perform_check _ s

/-- A text goes to the files, or the session stays as it is. -/
theorem perform_writeText (path : String) (text : List Char) (s : Session) :
    (writeText path text).perform s =
      match s.files.writeText path text with
      | .ok written => (.ok (), { s with files := written })
      | .error failure => (.error failure, s) := by
  unfold writeText
  rw [perform_bind, perform_get]
  simp only [perform_check_bind]
  cases s.files.writeText path text with
  | ok written => rfl
  | error failure => rfl

end Audit

end WorkflowAudit
