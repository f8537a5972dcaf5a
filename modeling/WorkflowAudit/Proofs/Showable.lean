import Mathlib.Algebra.Ring.Nat
import WorkflowAudit.Value.Access

/-! # Values that can be shown

A value can be turned into text unless an integer in it has too many digits.  This module says which
integers these are (`Text.isLong_eq_false_iff`), and that all parts of a value have to be free of
them.
-/
namespace WorkflowAudit

theorem Text.isLong_eq_false_iff {n : Int} : isLong n = false ↔ n.natAbs < 10 ^ digitLimit := by
  rw [isLong, decide_eq_false_iff_not, Nat.not_lt]
  exact Nat.length_toDigits_le_iff (by decide) (by decide)

theorem Text.isLong_iff {n : Int} : isLong n = true ↔ 10 ^ digitLimit ≤ n.natAbs := by
  rw [← Nat.not_lt, ← isLong_eq_false_iff, Bool.not_eq_false]

/-- The least integer that is too long. -/
def Text.leastLong : Int := Int.ofNat (Nat.pow 10 digitLimit)

theorem Text.leastLong_eq_cast : leastLong = (10 ^ digitLimit : Nat) := by
  -- for any power, so that this one is not computed
  have hpower : ∀ k : Nat, Int.ofNat (Nat.pow 10 k) = (10 ^ k : Nat) := fun _ => rfl
  exact hpower digitLimit

theorem Text.isLong_leastLong : isLong leastLong = true := by
  rw [isLong_iff, leastLong_eq_cast, Int.natAbs_natCast]

namespace Value

theorem isShowable_leastLong : (int Text.leastLong).isShowable = false := by
  rw [isShowable, Text.isLong_leastLong, Bool.not_true]

@[simp] theorem areShowable_iff {items : List Value} :
    areShowable items = true ↔ ∀ item ∈ items, item.isShowable = true := by
  induction items with
  | nil => simp [areShowable]
  | cons item rest ih => simp [areShowable, ih]

@[simp] theorem areShowableEntries_iff {entries : Entries} :
    areShowableEntries entries = true ↔
      ∀ entry ∈ entries, entry.1.isShowable = true ∧ entry.2.isShowable = true := by
  induction entries with
  | nil => simp [areShowableEntries]
  | cons entry rest ih => simp [areShowableEntries, ih]

@[simp] theorem isShowable_plainList {items : List Value} :
    (plainList items).isShowable = true ↔ ∀ item ∈ items, item.isShowable = true :=
  areShowable_iff

@[simp] theorem isShowable_record {fields : List (String × Value)} :
    (record fields).isShowable = true ↔ ∀ field ∈ fields, field.2.isShowable = true := by
  refine areShowableEntries_iff.trans ⟨fun h field hfield => ?_, fun h entry hentry => ?_⟩
  · exact (h _ (List.mem_map_of_mem hfield)).2
  · obtain ⟨field, hfield, rfl⟩ := List.mem_map.mp hentry
    exact ⟨rfl, h field hfield⟩

/-- Under the same keys, values of which the same can be shown. -/
theorem isShowable_map_congr {α : Type} {f g : α → Value} (entries : List (Value × α))
    (h : ∀ a, (f a).isShowable = (g a).isShowable) :
    (map .plain (entries.map fun entry => (entry.1, f entry.2))).isShowable =
      (map .plain (entries.map fun entry => (entry.1, g entry.2))).isShowable := by
  show areShowableEntries _ = areShowableEntries _
  induction entries with
  | nil => rfl
  | cons entry rest ih =>
    rw [List.map_cons, List.map_cons, areShowableEntries, h, ih, areShowableEntries]

variable {v : Value}

theorem shown_of_isShowable (h : v.isShowable = true) : v.shown = .ok v.displayed := by
  rw [shown, if_pos h]
  rfl

theorem shown_of_not_isShowable (h : v.isShowable = false) : v.shown = .error .longInteger := by
  rw [shown, if_neg (by simp [h])]
  rfl

theorem shown_ok {text : List Char} :
    v.shown = .ok text ↔ v.isShowable = true ∧ v.displayed = text := by
  cases h : v.isShowable with
  | false => simp [shown_of_not_isShowable h]
  | true => simp [shown_of_isShowable h]

theorem represented_of_isShowable (h : v.isShowable = true) : v.represented = .ok v.written := by
  rw [represented, if_pos h]
  rfl

theorem represented_of_not_isShowable (h : v.isShowable = false) :
    v.represented = .error .longInteger := by
  rw [represented, if_neg (by simp [h])]
  rfl

theorem represented_ok {text : List Char} :
    v.represented = .ok text ↔ v.isShowable = true ∧ v.written = text := by
  cases h : v.isShowable with
  | false => simp [represented_of_not_isShowable h]
  | true => simp [represented_of_isShowable h]

end Value

end WorkflowAudit
