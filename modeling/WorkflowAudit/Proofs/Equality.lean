import Mathlib.Tactic.Ring
import WorkflowAudit.Proofs.Keys

/-! # Values that mean the same

`Value.equal` compares meanings, and mappings rely on it to find their keys.  This module shows that
it is an equivalence on well-formed values, those whose mappings and sets have no key twice:
symmetric (`Value.equal_symm`) and transitive (`Value.equal_trans`); `Value.equal_refl` holds of all
values.

Scalars have a meaning that is compared as such (`Value.Atom`).  For numbers it is an exact one: a
double is taken apart in a normal form, so that it stands for one number of units of the smallest
double, and an integer stands for such a number as well.  Mappings and sets of the same size are
compared in one direction only; that the other direction follows is a matter of counting
(`exists_of_length_eq`).
-/
namespace WorkflowAudit

/-! ## What a number stands for -/

namespace Decimal

/-- What a number stands for: a finite one is counted in units of the smallest positive double. -/
inductive Meaning where
  | finite (units : Int)
  | infinite (negative : Bool)
  | notANumber

/-- The least exponent of a double, negated. -/
@[irreducible] def leastExponent : Nat := 1074

/-- The number of units in one. -/
def unitsInOne : Nat := Nat.pow 2 leastExponent

theorem unitsInOne_ne_zero : unitsInOne ≠ 0 := (Nat.pow_pos (by decide)).ne'

theorem unitsInOne_pos : (0 : Int) < unitsInOne :=
    Int.natCast_pos.mpr (Nat.pos_of_ne_zero unitsInOne_ne_zero)

namespace Binary

/-- The form in which doubles are taken apart: the mantissa is short, and has its full length unless
the exponent is the least. -/
def Normal : Binary → Prop
  | .finite _ mantissa exponent => mantissa < Nat.pow 2 53 ∧ -(leastExponent : Int) ≤ exponent ∧
      (Nat.pow 2 52 ≤ mantissa ∨ exponent = -(leastExponent : Int))
  | _ => True

theorem normal_ofFloat (x : Float) : (ofFloat x).Normal := by
  unfold ofFloat
  extract_lets bits negative exponent fraction
  have hfraction : fraction < Nat.pow 2 52 := Nat.mod_lt _ (Nat.pow_pos (by decide))
  have hpow : Nat.pow 2 53 = Nat.pow 2 52 + Nat.pow 2 52 := by decide
  have hleast : (leastExponent : Int) = 1074 := by simp [leastExponent]
  split
  · split <;> trivial
  · split
    · exact ⟨by omega, by omega, .inr (by omega)⟩
    · exact ⟨by omega, by omega, .inl (Nat.le_add_right _ _)⟩

/-- The number of units of a finite double, without its sign. -/
def units (mantissa : Nat) (exponent : Int) : Nat :=
  mantissa * Nat.pow 2 (exponent + leastExponent).toNat

/-- A natural number with a sign. -/
def signed (negative : Bool) (n : Nat) : Int :=
  if negative then -n else n

theorem signed_inj {negative negative' : Bool} {n n' : Nat} :
    signed negative n = signed negative' n' ↔ n = n' ∧ (n = 0 ∨ negative = negative') := by
  unfold signed
  cases negative with
  | true =>
    cases negative' with
    | true => simp
    | false => simp; omega
  | false =>
    cases negative' with
    | true => simp; omega
    | false => simp

/-- What a double stands for. -/
def meaning : Binary → Meaning
  | .finite negative mantissa exponent => .finite (signed negative (units mantissa exponent))
  | .infinite negative => .infinite negative
  | .notANumber => .notANumber

theorem units_eq_zero {mantissa : Nat} {exponent : Int} :
    units mantissa exponent = 0 ↔ mantissa = 0 := by
  simp [units]

/-- Of two doubles with different exponents the one with the greater exponent is greater. -/
theorem units_lt {negative negative' : Bool} {mantissa mantissa' : Nat} {exponent exponent' : Int}
    (h : (finite negative mantissa exponent).Normal)
    (h' : (finite negative' mantissa' exponent').Normal) (hlt : exponent < exponent') :
    units mantissa exponent < units mantissa' exponent' := by
  obtain ⟨hshort, hleast, -⟩ := h
  obtain ⟨-, -, hlong⟩ := h'
  -- the greater exponent is not the least, so its mantissa has its full length
  replace hlong : Nat.pow 2 52 ≤ mantissa' := hlong.resolve_right (by omega)
  obtain ⟨k, hk⟩ : ∃ k, (exponent' + leastExponent).toNat =
    (exponent + leastExponent).toNat + 1 + k :=
    ⟨(exponent' + leastExponent).toNat - ((exponent + leastExponent).toNat + 1), by omega⟩
  calc mantissa * 2 ^ (exponent + leastExponent).toNat
      < 2 ^ 53 * 2 ^ (exponent + leastExponent).toNat :=
        Nat.mul_lt_mul_of_pos_right hshort (Nat.two_pow_pos _)
    _ = 2 ^ 52 * 2 ^ ((exponent + leastExponent).toNat + 1) := by ring
    _ ≤ 2 ^ 52 * 2 ^ ((exponent + leastExponent).toNat + 1 + k) :=
      Nat.mul_le_mul_left _ (Nat.pow_le_pow_right (by decide) (Nat.le_add_right _ k))
    _ ≤ mantissa' * 2 ^ (exponent' + leastExponent).toNat := by
      rw [hk]
      exact Nat.mul_le_mul_right _ hlong

/-- The normal form of a double can be told from what it stands for. -/
theorem units_inj {negative negative' : Bool} {mantissa mantissa' : Nat} {exponent exponent' : Int}
    (h : (finite negative mantissa exponent).Normal)
    (h' : (finite negative' mantissa' exponent').Normal) :
    units mantissa exponent = units mantissa' exponent' ↔
      mantissa = mantissa' ∧ exponent = exponent' := by
  constructor
  · intro hunits
    rcases lt_trichotomy exponent exponent' with hlt | rfl | hlt
    · exact absurd hunits (units_lt h h' hlt).ne
    · exact ⟨Nat.eq_of_mul_eq_mul_right (Nat.two_pow_pos _) hunits, rfl⟩
    · exact absurd hunits (units_lt h' h hlt).ne'
  · rintro ⟨rfl, rfl⟩
    rfl

/-- Doubles are equal when they stand for the same. -/
theorem equal_iff {b b' : Binary} (h : b.Normal) (h' : b'.Normal) :
    b.equal b' = true ↔ b.meaning = b'.meaning := by
  cases b with
  | finite negative mantissa exponent =>
    cases b' with
    | finite negative' mantissa' exponent' =>
      rw [equal, meaning, meaning, Meaning.finite.injEq, signed_inj]
      by_cases hzero : mantissa = 0
      · -- the two zeros are one number
        have hunits : units mantissa exponent = 0 := units_eq_zero.mpr hzero
        rw [if_pos (beq_iff_eq.mpr hzero), beq_iff_eq, hunits, ← units_eq_zero]
        exact ⟨fun h => ⟨h.symm, .inl rfl⟩, fun h => h.1.symm⟩
      · have hunits : units mantissa exponent ≠ 0 := fun h => hzero (units_eq_zero.mp h)
        rw [if_neg (by simpa using hzero), units_inj h h']
        simp only [Bool.and_eq_true, beq_iff_eq, hunits, false_or]
        tauto
    | infinite negative' => simp [equal, meaning]
    | notANumber => simp [equal, meaning]
  | infinite negative =>
    cases b' with
    | infinite negative' => simp [equal, meaning]
    | _ => simp [equal, meaning]
  | notANumber =>
    cases b' with
    | notANumber => simp [equal, meaning]
    | _ => simp [equal, meaning]

/-- A finite double as a quotient of naturals, and the same double in units. -/
theorem scaledPair_units {mantissa : Nat} {exponent : Int} (h : -(leastExponent : Int) ≤ exponent) :
    (scaledPair mantissa 1 exponent).1 * unitsInOne =
      units mantissa exponent * (scaledPair mantissa 1 exponent).2 := by
  unfold scaledPair unitsInOne units
  by_cases hexponent : exponent ≥ 0
  · have hsum : (exponent + leastExponent).toNat = exponent.toNat + leastExponent := by omega
    have hpow : Nat.pow 2 (exponent + leastExponent).toNat =
        Nat.pow 2 exponent.toNat * Nat.pow 2 leastExponent := hsum ▸ Nat.pow_add 2 _ _
    rw [if_pos hexponent, hpow, mul_one, mul_assoc]
  · have hsum : leastExponent = (-exponent).toNat + (exponent + leastExponent).toNat := by omega
    have hpow : Nat.pow 2 leastExponent =
        Nat.pow 2 (-exponent).toNat * Nat.pow 2 (exponent + leastExponent).toNat :=
      (congrArg (Nat.pow 2) hsum).trans (Nat.pow_add 2 _ _)
    rw [if_neg hexponent, hpow, one_mul, mul_assoc, mul_comm (Nat.pow 2 _)]

theorem scaledPair_pos (mantissa : Nat) (exponent : Int) :
    0 < (scaledPair mantissa 1 exponent).2 := by
  unfold scaledPair
  split
  · exact Nat.one_pos
  · rw [one_mul]
    exact Nat.pow_pos (by decide)

/-- A finite double is a natural when it has its units. -/
theorem scaledPair_iff {mantissa : Nat} {exponent : Int} (h : -(leastExponent : Int) ≤ exponent)
    (n : Nat) :
    (scaledPair mantissa 1 exponent).1 = n * (scaledPair mantissa 1 exponent).2 ↔
      units mantissa exponent = n * unitsInOne := by
  rw [← Nat.mul_left_inj unitsInOne_ne_zero, scaledPair_units h, mul_right_comm]
  exact Nat.mul_left_inj (scaledPair_pos mantissa exponent).ne'

/-- An integer counted in units. -/
theorem mul_unitsInOne (n : Int) :
    n * unitsInOne = signed (decide (n < 0)) (n.natAbs * unitsInOne) := by
  unfold signed
  by_cases hn : n < 0
  · have habs : (n.natAbs : Int) = -n := by omega
    rw [if_pos (decide_eq_true hn), Nat.cast_mul, habs, neg_mul, neg_neg]
  · have habs : (n.natAbs : Int) = n := by omega
    rw [if_neg (by simpa using hn), Nat.cast_mul, habs]

/-- A double is an integer when both stand for the same. -/
theorem isInt_iff {b : Binary} (h : b.Normal) (n : Int) :
    b.isInt n = true ↔ b.meaning = .finite (n * unitsInOne) := by
  cases b with
  | finite negative mantissa exponent =>
    have hscaled := @scaledPair_iff mantissa exponent h.2.1 n.natAbs
    rw [meaning, Meaning.finite.injEq, mul_unitsInOne, signed_inj]
    simp only [isInt, Bool.and_eq_true, Bool.or_eq_true, beq_iff_eq, hscaled]
    constructor
    · rintro ⟨hunits, hsign⟩
      refine ⟨hunits, hsign.imp_left ?_⟩
      rintro rfl
      rw [hunits, Int.natAbs_zero, zero_mul]
    · rintro ⟨hunits, hsign⟩
      refine ⟨hunits, hsign.imp_left fun hzero => ?_⟩
      have hproduct : n.natAbs * unitsInOne = 0 := hunits ▸ hzero
      exact Int.natAbs_eq_zero.mp ((Nat.mul_eq_zero.mp hproduct).resolve_right unitsInOne_ne_zero)
  | infinite negative => simp [isInt, meaning]
  | notANumber => simp [isInt, meaning]

end Binary

end Decimal

theorem Date.beq_iff {d e : Date} : (d == e) = true ↔ d = e := by
  cases d
  cases e
  simp [BEq.beq, instBEqDate.beq]

theorem Moment.beq_iff {m n : Moment} : (m == n) = true ↔ m = n := by
  have hdate := @Date.beq_iff m.date n.date
  cases m
  cases n
  simp only [BEq.beq] at hdate
  simp [BEq.beq, instBEqMoment.beq, hdate]

namespace Value

open Decimal

/-- What a number stands for. -/
def Number.meaning : Number → Meaning
  | .int n => .finite (n * unitsInOne)
  | .float x => (Binary.ofFloat x).meaning

theorem Number.equal_iff {n m : Number} : n.equal m = true ↔ n.meaning = m.meaning := by
  have hone : (unitsInOne : Int) ≠ 0 := Int.natCast_ne_zero.mpr unitsInOne_ne_zero
  cases n with
  | int n =>
    cases m with
    | int m =>
      rw [equal, beq_iff_eq, meaning, meaning, Meaning.finite.injEq]
      exact (Int.mul_eq_mul_right_iff hone).symm
    | float x =>
      rw [equal, Binary.isInt_iff (Binary.normal_ofFloat x), meaning, meaning]
      exact eq_comm
  | float x =>
    cases m with
    | int m => rw [equal, Binary.isInt_iff (Binary.normal_ofFloat x), meaning, meaning]
    | float y =>
      exact Binary.equal_iff (Binary.normal_ofFloat x) (Binary.normal_ofFloat y)

/-! ## Scalars -/

/-- What a scalar stands for. -/
inductive Atom where
  | null
  | number (meaning : Meaning)
  | text (s : String)
  | bytes (bs : List UInt8)
  | date (d : Date)
  | moment (m : Moment)
  | tagged (tag content : String)

/-- What a value stands for, if it is a scalar. -/
def atom? : Value → Option Atom
  | .null => some .null
  | .bool b => some (.number (Number.int (if b then 1 else 0)).meaning)
  | .int n => some (.number (Number.int n).meaning)
  | .float x => some (.number (Number.float x).meaning)
  | .text s => some (.text s)
  | .bytes bs => some (.bytes bs)
  | .date d => some (.date d)
  | .moment m => some (.moment { m with zoned := false })
  | .tagged tag content => some (.tagged tag content)
  | .list _ _ | .map _ _ | .set _ => none

/-- Numbers are equal when they stand for the same. -/
theorem atom?_of_number {v : Value} {n : Number} (h : v.number? = some n) :
    v.atom? = some (.number n.meaning) := by
  cases v with
  | bool b => cases h; rfl
  | int n => cases h; rfl
  | float x => cases h; rfl
  | _ => cases h

theorem equal_of_number {v w : Value} {n : Number} (h : v.number? = some n) :
    v.equal w = true ↔ v.atom? = w.atom? := by
  have hequal : v.equal w = true ↔ ∃ m, w.number? = some m ∧ n.equal m = true := by
    cases v with
    | bool b => cases w <;> simp_all [equal, scalarEqual, number?]
    | int n => cases w <;> simp_all [equal, scalarEqual, number?]
    | float x => cases w <;> simp_all [equal, scalarEqual, number?]
    | _ => cases h
  rw [hequal, atom?_of_number h]
  constructor
  · rintro ⟨m, hm, hequal⟩
    rw [atom?_of_number hm, Number.equal_iff.mp hequal]
  · intro hatom
    cases hm : w.number? with
    | none => cases w <;> simp_all [number?, atom?]
    | some m =>
      rw [atom?_of_number hm, Option.some.injEq, Atom.number.injEq] at hatom
      exact ⟨m, rfl, Number.equal_iff.mpr hatom⟩

/-- A scalar is equal to the scalars that stand for the same, and to nothing else. -/
theorem equal_iff_atom {v w : Value} (h : v.atom? ≠ none) :
    v.equal w = true ↔ v.atom? = w.atom? := by
  cases v with
  | list kind items => exact absurd rfl h
  | map kind entries => exact absurd rfl h
  | set members => exact absurd rfl h
  | bool b => exact equal_of_number rfl
  | int n => exact equal_of_number rfl
  | float x => exact equal_of_number rfl
  | null => cases w <;> simp [equal, scalarEqual, number?, atom?]
  | text s => cases w <;> simp [equal, scalarEqual, number?, atom?]
  | bytes bs => cases w <;> simp [equal, scalarEqual, number?, atom?]
  | date d => cases w <;> simp [equal, scalarEqual, number?, atom?, Date.beq_iff]
  | moment m => cases w <;> simp [equal, scalarEqual, number?, atom?, Moment.beq_iff]
  | tagged tag content => cases w <;> simp [equal, scalarEqual, number?, atom?]

theorem equal_trans_of_atom {u v w : Value} (hatom : u.atom? ≠ none) (h : u.equal v = true)
    (h' : v.equal w = true) : u.equal w = true := by
  have huv := (equal_iff_atom hatom).mp h
  have hvw := (equal_iff_atom (huv ▸ hatom)).mp h'
  exact (equal_iff_atom hatom).mpr (huv.trans hvw)

theorem equal_symm_of_atom {v w : Value} (hatom : v.atom? ≠ none) (h : v.equal w = true) :
    w.equal v = true := by
  have hvw := (equal_iff_atom hatom).mp h
  exact (equal_iff_atom (hvw ▸ hatom)).mpr hvw.symm

/-! ## Lists, mappings and sets -/

theorem entriesWithin_iff {entries others : Entries} :
    entriesWithin entries others = true ↔ ∀ entry ∈ entries, ∃ other ∈ others,
      entry.1.equal other.1 = true ∧ entry.2.equal other.2 = true := by
  induction entries with
  | nil => simp [entriesWithin]
  | cons entry rest ih =>
    obtain ⟨k, v⟩ := entry
    rw [entriesWithin, Bool.and_eq_true, ih, List.any_eq_true, List.forall_mem_cons]
    simp only [Bool.and_eq_true]

theorem membersWithin_iff {members others : List Value} :
    membersWithin members others = true ↔
      ∀ member ∈ members, ∃ other ∈ others, member.equal other = true := by
  induction members with
  | nil => simp [membersWithin]
  | cons v rest ih =>
    rw [membersWithin, Bool.and_eq_true, ih, List.any_eq_true, List.forall_mem_cons]

mutual

/-- What two values have in common with a third they have in common; the induction is that of
`equal`. -/
theorem equal_trans : ∀ {u v w : Value}, u.equal v = true → v.equal w = true → u.equal w = true
  | .list kind items, v, w, h, h' => by
    cases v with
    | list kind' items' =>
      cases w with
      | list kind'' items'' =>
        simp only [equal, Bool.and_eq_true, beq_iff_eq] at h h' ⊢
        exact ⟨h.1.trans h'.1, equalItems_trans h.2 h'.2⟩
      | _ => simp [equal] at h'
    | _ => simp [equal] at h
  | .map kind entries, v, w, h, h' => by
    cases v with
    | map kind' entries' =>
      cases w with
      | map kind'' entries'' =>
        simp only [equal, Bool.and_eq_true, beq_iff_eq] at h h' ⊢
        exact ⟨h.1.trans h'.1, entriesWithin_trans h.2 h'.2⟩
      | _ => simp [equal] at h'
    | _ => simp [equal] at h
  | .set members, v, w, h, h' => by
    cases v with
    | set members' =>
      cases w with
      | set members'' =>
        simp only [equal, Bool.and_eq_true, beq_iff_eq] at h h' ⊢
        exact ⟨h.1.trans h'.1, membersWithin_trans h.2 h'.2⟩
      | _ => simp [equal] at h'
    | _ => simp [equal] at h
  | .null, v, w, h, h' => equal_trans_of_atom (by simp [atom?]) h h'
  | .bool b, v, w, h, h' => equal_trans_of_atom (by simp [atom?]) h h'
  | .int n, v, w, h, h' => equal_trans_of_atom (by simp [atom?]) h h'
  | .float x, v, w, h, h' => equal_trans_of_atom (by simp [atom?]) h h'
  | .text s, v, w, h, h' => equal_trans_of_atom (by simp [atom?]) h h'
  | .bytes bs, v, w, h, h' => equal_trans_of_atom (by simp [atom?]) h h'
  | .date d, v, w, h, h' => equal_trans_of_atom (by simp [atom?]) h h'
  | .moment m, v, w, h, h' => equal_trans_of_atom (by simp [atom?]) h h'
  | .tagged tag content, v, w, h, h' => equal_trans_of_atom (by simp [atom?]) h h'

theorem equalItems_trans : ∀ {us vs ws : List Value}, equalItems us vs = true →
    equalItems vs ws = true → equalItems us ws = true
  | [], vs, ws, h, h' => by
    cases vs with
    | nil => exact h'
    | cons v vs => simp [equalItems] at h
  | u :: us, vs, ws, h, h' => by
    cases vs with
    | nil => simp [equalItems] at h
    | cons v vs =>
      cases ws with
      | nil => simp [equalItems] at h'
      | cons w ws =>
        simp only [equalItems, Bool.and_eq_true] at h h' ⊢
        exact ⟨equal_trans h.1 h'.1, equalItems_trans h.2 h'.2⟩

theorem entriesWithin_trans :
    ∀ {entries others more : Entries}, entriesWithin entries others = true →
    entriesWithin others more = true → entriesWithin entries more = true
  | [], _, _, _, _ => rfl
  | (k, v) :: rest, others, more, h, h' => by
    obtain ⟨⟨other, hother, hk, hv⟩, hrest⟩ := List.forall_mem_cons.mp (entriesWithin_iff.mp h)
    obtain ⟨next, hnext, hk', hv'⟩ := entriesWithin_iff.mp h' other hother
    have hfirst : (more.any fun (k', v') => equal k k' && equal v v') = true :=
      List.any_eq_true.mpr ⟨next, hnext, by
        rw [Bool.and_eq_true]
        exact ⟨equal_trans hk hk', equal_trans hv hv'⟩⟩
    rw [entriesWithin, hfirst, entriesWithin_trans (entriesWithin_iff.mpr hrest) h']
    rfl

theorem membersWithin_trans : ∀ {members others more : List Value},
    membersWithin members others = true → membersWithin others more = true →
      membersWithin members more = true
  | [], _, _, _, _ => rfl
  | v :: rest, others, more, h, h' => by
    obtain ⟨⟨other, hother, hv⟩, hrest⟩ := List.forall_mem_cons.mp (membersWithin_iff.mp h)
    obtain ⟨next, hnext, hv'⟩ := membersWithin_iff.mp h' other hother
    have hfirst : more.any (equal v) = true :=
      List.any_eq_true.mpr ⟨next, hnext, equal_trans hv hv'⟩
    rw [membersWithin, hfirst, membersWithin_trans (membersWithin_iff.mpr hrest) h']
    rfl

end

/-! ## Well-formed values -/

mutual

/-- Whether no mapping and no set inside a value has a key twice. -/
def wellFormed : Value → Bool
  | .list _ items => itemsWellFormed items
  | .map _ entries => entriesWellFormed entries
  | .set members => membersWellFormed members
  | _ => true

/-- Whether the items of a list are well-formed. -/
def itemsWellFormed : List Value → Bool
  | [] => true
  | v :: rest => v.wellFormed && itemsWellFormed rest

/-- Whether the keys and values of a mapping are well-formed and no key stands there twice. -/
def entriesWellFormed : Entries → Bool
  | [] => true
  | (k, v) :: rest => k.wellFormed && v.wellFormed && entriesWellFormed rest &&
      rest.all fun (k', _) => !k.equal k'

/-- Whether the members of a set are well-formed and none stands there twice. -/
def membersWellFormed : List Value → Bool
  | [] => true
  | v :: rest => v.wellFormed && membersWellFormed rest && rest.all fun v' => !v.equal v'

end

/-- Where each item of a list has its match in a list of the same length, and no two share one, each
item there is a match. -/
theorem exists_of_length_eq {α β : Type} {S : α → β → Prop} {items : List α} {others : List β}
    (hlength : items.length = others.length) (hmatch : ∀ a ∈ items, ∃ b ∈ others, S a b)
    (happart : items.Pairwise fun a a' => ∀ b, S a b → ¬ S a' b) :
    ∀ b ∈ others, ∃ a ∈ items, S a b := by
  induction items generalizing others with
  | nil =>
    intro b hb
    rw [List.eq_nil_of_length_eq_zero hlength.symm] at hb
    cases hb
  | cons a items ih =>
    obtain ⟨⟨b₀, hb₀, hS₀⟩, hmatch⟩ := List.forall_mem_cons.mp hmatch
    obtain ⟨hfirst, happart⟩ := List.pairwise_cons.mp happart
    obtain ⟨earlier, later, rfl⟩ := List.append_of_mem hb₀
    have hlength' : items.length = (earlier ++ later).length := by
      simp only [List.length_cons, List.length_append] at hlength ⊢
      omega
    -- the match of the first item is that of no other, so the others have theirs in what is left
    have hmatch' : ∀ a' ∈ items, ∃ b ∈ earlier ++ later, S a' b := by
      intro a' ha'
      obtain ⟨b, hb, hS⟩ := hmatch a' ha'
      have hne : b ≠ b₀ := by
        rintro rfl
        exact hfirst a' ha' b hS₀ hS
      refine ⟨b, ?_, hS⟩
      simp only [List.mem_append, List.mem_cons] at hb ⊢
      tauto
    intro b hb
    by_cases hleft : b ∈ earlier ++ later
    · obtain ⟨a', ha', hS⟩ := ih hlength' hmatch' happart b hleft
      exact ⟨a', List.mem_cons_of_mem _ ha', hS⟩
    · obtain rfl : b = b₀ := by
        simp only [List.mem_append, List.mem_cons] at hb hleft
        tauto
      exact ⟨a, List.mem_cons_self, hS₀⟩

/-- The keys of a well-formed mapping differ. -/
theorem distinct_of_wellFormed {entries : Entries} (h : entriesWellFormed entries = true) :
    Entries.Distinct entries := by
  induction entries with
  | nil => exact .nil
  | cons entry rest ih =>
    obtain ⟨k, v⟩ := entry
    simp only [entriesWellFormed, Bool.and_eq_true, List.all_eq_true] at h
    refine Entries.distinct_cons.mpr ⟨fun k' hk' => ?_, ih h.1.2⟩
    obtain ⟨entry, hentry, rfl⟩ := List.mem_map.mp hk'
    simpa using h.2 entry hentry

theorem pairwise_of_wellFormed {members : List Value} (h : membersWellFormed members = true) :
    members.Pairwise fun v v' => v.equal v' = false := by
  induction members with
  | nil => exact .nil
  | cons member rest ih =>
    simp only [membersWellFormed, Bool.and_eq_true, List.all_eq_true] at h
    exact .cons (fun v' hv' => by simpa using h.2 v' hv') (ih h.1.2)

/-- No value matches two keys that differ. -/
theorem pairwise_apart {keys : List Value} (h : keys.Pairwise fun k k' => k.equal k' = false)
    (hsymm : ∀ k ∈ keys, ∀ {v : Value}, k.equal v = true → v.equal k = true) :
    keys.Pairwise fun k k' => ∀ v, k.equal v = true → ¬ k'.equal v = true := by
  refine h.imp_of_mem fun _ hk' hne v hv hv' => ?_
  have hsame := equal_trans hv (hsymm _ hk' hv')
  rw [hne] at hsame
  cases hsame

mutual

/-- Equality of well-formed values goes both ways; only the first of the two has to be
well-formed. -/
theorem equal_symm : ∀ {v w : Value}, v.wellFormed = true → v.equal w = true → w.equal v = true
  | .list kind items, w, hv, h => by
    cases w with
    | list kind' items' =>
      simp only [equal, Bool.and_eq_true, beq_iff_eq] at h ⊢
      rw [wellFormed] at hv
      exact ⟨h.1.symm, equalItems_symm hv h.2⟩
    | _ => simp [equal] at h
  | .map kind entries, w, hv, h => by
    cases w with
    | map kind' entries' =>
      simp only [equal, Bool.and_eq_true, beq_iff_eq, entriesWithin_iff] at h ⊢
      rw [wellFormed] at hv
      refine ⟨h.1.symm, fun other hother => ?_⟩
      have hsymm := entries_symm hv
      have happart : (Entries.keys entries).Pairwise _ :=
        pairwise_apart (distinct_of_wellFormed hv) fun k hk => by
          obtain ⟨entry, hentry, rfl⟩ := List.mem_map.mp hk
          exact (hsymm entry hentry).1
      obtain ⟨entry, hentry, hk, hv⟩ := exists_of_length_eq h.1 h.2
        ((List.pairwise_map.mp happart).imp fun hne found hS hS' =>
          hne found.1 hS.1 hS'.1) other hother
      exact ⟨entry, hentry, (hsymm entry hentry).1 hk, (hsymm entry hentry).2 hv⟩
    | _ => simp [equal] at h
  | .set members, w, hv, h => by
    cases w with
    | set members' =>
      simp only [equal, Bool.and_eq_true, beq_iff_eq, membersWithin_iff] at h ⊢
      rw [wellFormed] at hv
      refine ⟨h.1.symm, fun other hother => ?_⟩
      have hsymm := members_symm hv
      obtain ⟨member, hmember, hequal⟩ :=
        exists_of_length_eq h.1 h.2 (pairwise_apart (pairwise_of_wellFormed hv) hsymm) other hother
      exact ⟨member, hmember, hsymm member hmember hequal⟩
    | _ => simp [equal] at h
  | .null, w, _, h => equal_symm_of_atom (by simp [atom?]) h
  | .bool b, w, _, h => equal_symm_of_atom (by simp [atom?]) h
  | .int n, w, _, h => equal_symm_of_atom (by simp [atom?]) h
  | .float x, w, _, h => equal_symm_of_atom (by simp [atom?]) h
  | .text s, w, _, h => equal_symm_of_atom (by simp [atom?]) h
  | .bytes bs, w, _, h => equal_symm_of_atom (by simp [atom?]) h
  | .date d, w, _, h => equal_symm_of_atom (by simp [atom?]) h
  | .moment m, w, _, h => equal_symm_of_atom (by simp [atom?]) h
  | .tagged tag content, w, _, h => equal_symm_of_atom (by simp [atom?]) h

theorem equalItems_symm : ∀ {vs ws : List Value}, itemsWellFormed vs = true →
    equalItems vs ws = true → equalItems ws vs = true
  | [], ws, _, h => by
    cases ws with
    | nil => rfl
    | cons w ws => simp [equalItems] at h
  | v :: vs, ws, hvs, h => by
    cases ws with
    | nil => simp [equalItems] at h
    | cons w ws =>
      simp only [equalItems, itemsWellFormed, Bool.and_eq_true] at h hvs ⊢
      exact ⟨equal_symm hvs.1 h.1, equalItems_symm hvs.2 h.2⟩

theorem entries_symm : ∀ {entries : Entries}, entriesWellFormed entries = true →
    ∀ entry ∈ entries, (∀ {k}, entry.1.equal k = true → k.equal entry.1 = true) ∧
      ∀ {v}, entry.2.equal v = true → v.equal entry.2 = true
  | [], _ => List.forall_mem_nil _
  | (k, v) :: rest, h => by
    simp only [entriesWellFormed, Bool.and_eq_true] at h
    exact List.forall_mem_cons.mpr
      ⟨⟨equal_symm h.1.1.1, equal_symm h.1.1.2⟩, entries_symm h.1.2⟩

theorem members_symm : ∀ {members : List Value}, membersWellFormed members = true →
    ∀ member ∈ members, ∀ {v}, member.equal v = true → v.equal member = true
  | [], _ => List.forall_mem_nil _
  | v :: rest, h => by
    simp only [membersWellFormed, Bool.and_eq_true] at h
    exact List.forall_mem_cons.mpr ⟨equal_symm h.1.1, members_symm h.1.2⟩

end

end Value

end WorkflowAudit
