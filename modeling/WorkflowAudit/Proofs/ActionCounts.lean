import WorkflowAudit.Findings
import WorkflowAudit.Proofs.Runs

/-! # Counts of actions

Two readers go through the steps of a workflow for the actions whose state is known.  One of them
lists the actions, with their flags, and the other counts the flags.  They ask for different things:
only the lister wants to know which action a step uses, and only the counter asks whether a flag
counts as true, while either may be given any value in place of a workflow.

Both are walks over the steps, and the counter goes through the same states as the lister, seen
through `Findings.tally`.  Walks go alike when their visits to a step do (`foldSteps_image`).
`action_counts_agree` says what follows: the readers fail alike, and what is counted is what is
listed.
-/
namespace WorkflowAudit

/-- Two folds go alike when each step of the second is the image of a step of the first.  They fail
at the same item, and for the same reason, or both come to the end. -/
theorem foldlM_image {α β ι : Type} {image : α → β} {visit : α → ι → Except Failure α}
    {visit' : β → ι → Except Failure β}
    (hvisit : ∀ found item, visit' (image found) item = image <$> visit found item)
    (items : List ι) (start : α) :
    items.foldlM visit' (image start) = image <$> items.foldlM visit start := by
  induction items generalizing start with
  | nil => rfl
  | cons item rest ih =>
    rw [List.foldlM_cons, List.foldlM_cons, hvisit]
    cases visit start item with
    | error failure => rfl
    | ok found => exact ih found

/-- A value that can be asked for one field can be asked for any. -/
theorem Value.exists_field {v w : Value} {name : String} (h : v.field name = .ok w)
    (other : String) :
    ∃ w', v.field other = .ok w' := by
  cases v with
  | map kind entries => exact ⟨_, rfl⟩
  | _ => cases h

namespace Findings

/-- Two walks over the steps of a workflow go alike when their visits do. -/
theorem foldSteps_image {α β : Type} (image : α → β) {visit : α → Value → Value → Except Failure α}
    {visit' : β → Value → Value → Except Failure β}
    (hvisit : ∀ found job step, visit' (image found) job step = image <$> visit found job step)
    (start : α) (workflow : Value) :
    foldSteps visit' (image start) workflow = image <$> foldSteps visit start workflow := by
  unfold foldSteps
  rw [map_bind]
  refine bind_congr fun jobs => ?_
  rw [map_bind]
  refine bind_congr fun indexed => foldlM_image (fun found job => ?_) indexed start
  rw [map_bind]
  refine bind_congr fun content => ?_
  rw [map_bind]
  refine bind_congr fun steps => ?_
  rw [map_bind]
  exact bind_congr fun items => foldlM_image (fun found step => hvisit found job.1 step) items found

/-- How many of some uses have a flag that counts as true, and how many have another one. -/
def tally (uses : List ActionUse) : Nat × Nat :=
  (uses.countP fun use => use.upToDate.isTruthy, uses.countP fun use => !use.upToDate.isTruthy)

theorem tally_append_single (uses : List ActionUse) (use : ActionUse) :
    tally (uses ++ [use]) =
      if use.upToDate.isTruthy then ((tally uses).1 + 1, (tally uses).2)
      else ((tally uses).1, (tally uses).2 + 1) := by
  unfold tally
  cases h : use.upToDate.isTruthy <;> simp [h]

/-- Every use is counted once. -/
theorem sum_tally (uses : List ActionUse) : (tally uses).1 + (tally uses).2 = uses.length := by
  rw [List.length_eq_countP_add_countP fun use : ActionUse => use.upToDate.isTruthy]
  simp [tally]

/-- The counter comes to what the lister comes to, once its uses are counted. -/
theorem upToDateCounts_eq (workflow : Value) :
    upToDateCounts workflow = tally <$> actionUses workflow := by
  unfold upToDateCounts actionUses
  refine foldSteps_image tally (fun found job step => ?_) [] workflow
  rw [map_bind]
  cases hsecurity : step.field "security" with
  | error failure => rfl
  | ok security =>
    simp only [bind, Except.bind]
    by_cases htruthy : security.isTruthy = true
    · rw [if_pos htruthy, if_pos htruthy]
      cases hflag : security.field upToDateField with
      | error failure => rfl
      | ok flag =>
        by_cases hnull : flag.isNull = true
        · simp only [hnull, if_true]
          rfl
        · -- only the lister asks for the action; it gets it, as it got what is known of the step
          obtain ⟨uses, huses⟩ := Value.exists_field hsecurity "uses"
          simp only [hnull, huses]
          show _ = Except.ok (tally (found ++ [⟨job, uses, flag⟩]))
          rw [tally_append_single]
          by_cases hflag : flag.isTruthy = true
          · rw [if_pos hflag, if_pos hflag]
            rfl
          · rw [if_neg hflag, if_neg hflag]
            rfl
    · rw [if_neg htruthy, if_neg htruthy]
      rfl

/-- **Actions are counted as they are listed.**  Let any value be given as a workflow.  The counter
fails exactly when the lister fails, and with the same failure.  Otherwise it gives the number of
listed uses whose flag counts as true and the number of those whose flag does not, which together
are all. -/
theorem action_counts_agree (workflow : Value) :
    (∀ failure, upToDateCounts workflow = .error failure ↔ actionUses workflow = .error failure) ∧
    ∀ current outdated, upToDateCounts workflow = .ok (current, outdated) ↔
      ∃ uses, actionUses workflow = .ok uses ∧
        uses.countP (fun use => use.upToDate.isTruthy) = current ∧
        uses.countP (fun use => !use.upToDate.isTruthy) = outdated ∧
        current + outdated = uses.length := by
  rw [upToDateCounts_eq]
  cases actionUses workflow with
  | error failure =>
    refine ⟨fun failure' => ?_, fun current outdated => ⟨fun h => (by cases h), ?_⟩⟩
    · show Except.error failure = Except.error failure' ↔ _
      rw [Except.error.injEq, Except.error.injEq]
    · rintro ⟨uses, h, -⟩
      cases h
  | ok uses =>
    refine ⟨fun failure => ⟨fun h => (by cases h), fun h => (by cases h)⟩,
      fun current outdated => ⟨fun h => ?_, ?_⟩⟩
    · obtain ⟨rfl, rfl⟩ := Prod.mk.inj (Except.ok.inj h)
      exact ⟨uses, rfl, rfl, rfl, sum_tally uses⟩
    · rintro ⟨uses', h, rfl, rfl, -⟩
      obtain rfl := Except.ok.inj h
      rfl

-- a flag need not be a truth value, and a null one is none
example :
    (upToDateCounts (.record [("jobs", .record [("a", .record [("steps", .plainList
      ([.bool true, .text "no", .text "", .int 0, .plainList [], .null].map fun flag =>
        .record [("security", .record [(upToDateField, flag)])]))])])])).toOption =
          some (2, 3) := by
  decide +kernel

end Findings
end WorkflowAudit
