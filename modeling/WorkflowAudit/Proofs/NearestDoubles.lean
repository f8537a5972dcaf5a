import Mathlib
import WorkflowAudit.Proofs.Equality

/-! # The double nearest to a quotient

`nearest` puts together the double that a quotient of two naturals is rounded to.  Here this is said
in terms of the rational number: a double is the nearest to the numbers between the two points
halfway to its neighbours (`RoundsTo`), and every quotient between them is rounded to it
(`nearest_eq`).

The argument has two parts.  A quotient is rounded at an exponent that its size tells (`RoundedAt`),
and this is the exponent of the nearest double, except just below a power of two, where it is one
less and the mantissa is rounded up to the next length (`RoundsTo.exponent_eq`).  And a double is
given by its bits, which say nothing else than its sign, mantissa and exponent
(`Binary.toBits_of_finite`).
-/
namespace WorkflowAudit.Decimal

/-! ## The bits of a double -/

section Bits

open Float.Model Float.Model.UnpackedFloat

/-- There is one double that is not a number. -/
theorem Binary.eq_of_notANumber {x : Float} (h : Binary.ofFloat x = .notANumber) : x = 0 / 0 := by
  obtain ⟨bits, hvalid⟩ := x
  have hparts : bits.toNat / 2 ^ 52 % 2 ^ 11 = 2047 ∧ bits.toNat % 2 ^ 52 ≠ 0 := by
    unfold ofFloat at h
    simp only [Nat.pow_eq] at h
    split at h
    · split at h
      · cases h
      · exact ⟨‹_›, ‹_›⟩
    · split at h <;> cases h
  have hexponent : (@unpackExponent Format.binary64 bits.toBitVec).toNat =
      bits.toNat / 2 ^ 52 % 2 ^ 11 := by
    simp [unpackExponent, Nat.shiftRight_eq_div_pow]
  have hnan : bits.toBitVec = packedNaN Format.binary64 := by
    refine hvalid.eq_packedNaN (BitVec.eq_of_toNat_eq ?_) fun hzero => hparts.2 ?_
    · rw [hexponent, hparts.1]
      rfl
    · have hfraction := congrArg BitVec.toNat hzero
      simpa [unpackMantissa] using hfraction
  obtain rfl : bits = UInt64.ofBitVec (packedNaN Format.binary64) := UInt64.toBitVec_inj.mp hnan
  rfl

end Bits

/-- The bits of the double `mantissa * 2 ^ exponent`, without its sign. -/
def magnitudeBits (mantissa : Nat) (exponent : Int) : Nat :=
  (exponent + 1074).toNat * Nat.pow 2 52 + mantissa

/-- The bits of a magnitude under a sign. -/
def signedBits (negative : Bool) (bits : Nat) : Nat :=
  if negative then Nat.pow 2 63 + bits else bits

namespace Binary

variable {x : Float} {negative : Bool} {mantissa : Nat} {exponent : Int}

theorem toBits_of_finite (h : ofFloat x = .finite negative mantissa exponent) :
    exponent ≤ 971 ∧ x.toBits.toNat = signedBits negative (magnitudeBits mantissa exponent) := by
  have hbits := x.toBits.toNat_lt
  unfold ofFloat at h
  unfold signedBits magnitudeBits
  simp only [Nat.pow_eq] at h ⊢
  generalize x.toBits.toNat = bits at *
  split at h
  · split at h <;> cases h
  · split at h
    · cases h
      simp only [beq_iff_eq]
      split <;> omega
    · cases h
      simp only [beq_iff_eq]
      split <;> omega

theorem toBits_of_infinite (h : ofFloat x = .infinite negative) :
    x.toBits.toNat = signedBits negative (2047 * Nat.pow 2 52) := by
  have hbits := x.toBits.toNat_lt
  unfold ofFloat at h
  unfold signedBits
  simp only [Nat.pow_eq] at h ⊢
  generalize x.toBits.toNat = bits at *
  split at h
  · split at h
    · cases h
      simp only [beq_iff_eq]
      split <;> omega
    · cases h
  · split at h <;> cases h

/-- The double with some bits. -/
theorem ofBits_eq {bits : Nat} (h : x.toBits.toNat = bits) :
    Float.ofBits (UInt64.ofNat bits) = x := by
  rw [← h, UInt64.ofNat_toNat, Float.ofBits_toBits]

/-- There are two infinite doubles. -/
theorem eq_of_infinite (h : ofFloat x = .infinite negative) :
    x = if negative then -1 / 0 else 1 / 0 := by
  rw [← ofBits_eq (toBits_of_infinite h)]
  cases negative <;> rfl

end Binary

/-! ## Rounding a quotient -/

/-- A number lies between two ends, which count only when they are included. -/
def Within (inclusive : Bool) (low x high : ℚ) : Prop :=
  if inclusive then low ≤ x ∧ x ≤ high else low < x ∧ x < high

namespace Within

variable {inclusive : Bool} {low x high : ℚ}

theorem le (h : Within inclusive low x high) : low ≤ x ∧ x ≤ high := by
  cases inclusive with
  | true => exact h
  | false => exact ⟨h.1.le, h.2.le⟩

theorem lt {p : Prop} [Decidable p] (h : Within (decide p) low x high) (hp : ¬ p) :
    low < x ∧ x < high := by
  rw [Within, decide_eq_false hp] at h
  exact h

theorem mono {low' high' : ℚ} (h : Within inclusive low x high) (hlow : low' ≤ low)
    (hhigh : high ≤ high') : Within inclusive low' x high' := by
  cases inclusive with
  | true => exact ⟨hlow.trans h.1, h.2.trans hhigh⟩
  | false => exact ⟨hlow.trans_lt h.1, h.2.trans_le hhigh⟩

end Within

theorem within_mul {inclusive : Bool} {low x high c : ℚ} (hc : 0 < c) :
    Within inclusive (low * c) (x * c) (high * c) ↔ Within inclusive low x high := by
  unfold Within
  simp only [mul_le_mul_iff_left₀ hc, mul_lt_mul_iff_left₀ hc]

/-- A quotient is rounded to the whole number that is at most half away, and even in a tie. -/
theorem roundedQuotient_eq {n m k : Nat} (hm : 0 < m)
    (h : Within (k % 2 = 0) (k - 1 / 2) (n / m) (k + 1 / 2)) : roundedQuotient n m = k := by
  have hm' : (0 : ℚ) < m := by exact_mod_cast hm
  -- the same without fractions
  have h : Within (k % 2 = 0) ((2 * k - 1) * m) (2 * n) ((2 * k + 1) * m) := by
    have hscaled := (within_mul (mul_pos two_pos hm')).mpr h
    convert hscaled using 1 <;> field_simp
  obtain ⟨quotient, hquotient⟩ : ∃ quotient, n / m = quotient := ⟨_, rfl⟩
  obtain ⟨rest, hrest⟩ : ∃ rest, n % m = rest := ⟨_, rfl⟩
  have hlt : rest < m := hrest ▸ Nat.mod_lt n hm
  have hn : (n : ℚ) = m * quotient + rest := by
    exact_mod_cast (hquotient ▸ hrest ▸ (Nat.div_add_mod n m).symm)
  have hrest' : (0 : ℚ) ≤ rest ∧ (rest : ℚ) < m := ⟨by positivity, by exact_mod_cast hlt⟩
  obtain ⟨hlow, hhigh⟩ := h.le
  rw [hn] at hlow hhigh
  have hle : quotient ≤ k := by
    by_contra hgt
    have hgt : (k : ℚ) + 1 ≤ quotient := by exact_mod_cast Nat.not_le.mp hgt
    nlinarith
  have hge : k ≤ quotient + 1 := by
    by_contra hgt
    have hgt : (quotient : ℚ) + 2 ≤ k := by exact_mod_cast Nat.not_le.mp hgt
    nlinarith
  unfold roundedQuotient
  dsimp only
  rw [hquotient, hrest]
  rcases Nat.lt_or_ge quotient k with hk | hk
  · obtain rfl : k = quotient + 1 := by omega
    push_cast at hlow
    have hhalf : m ≤ 2 * rest := by exact_mod_cast (by linarith : (m : ℚ) ≤ 2 * rest)
    refine if_pos ((Nat.lt_or_eq_of_le hhalf).imp_right fun htie => ⟨htie.symm, ?_⟩)
    -- an odd number would not be reached in a tie
    by_contra heven
    have hstrict := (h.lt (by omega)).1
    rw [hn] at hstrict
    push_cast at hstrict
    have hmore : m < 2 * rest := by exact_mod_cast (by linarith : (m : ℚ) < 2 * rest)
    omega
  · obtain rfl : k = quotient := by omega
    have hhalf : 2 * rest ≤ m := by exact_mod_cast (by linarith : (2 : ℚ) * rest ≤ m)
    refine if_neg (not_or.mpr ⟨by omega, fun htie => ?_⟩)
    have hstrict := (h.lt (by omega)).2
    rw [hn] at hstrict
    have hless : 2 * rest < m := by exact_mod_cast (by linarith : (2 : ℚ) * rest < m)
    omega

theorem scaledPair_snd_pos {m : Nat} (hm : 0 < m) (n : Nat) (k : Int) :
    0 < (scaledPair n m k).2 := by
  unfold scaledPair
  split
  · exact hm
  · exact Nat.mul_pos hm (Nat.pow_pos (by decide))

theorem scaledPair_quotient {m : Nat} (hm : 0 < m) (n : Nat) (k : Int) :
    ((scaledPair n m k).1 : ℚ) / (scaledPair n m k).2 = n / m * 2 ^ k := by
  have hm' : (m : ℚ) ≠ 0 := by positivity
  unfold scaledPair
  split
  · rename_i hk
    obtain ⟨j, rfl⟩ := Int.eq_ofNat_of_zero_le hk
    simp only [Nat.pow_eq, Int.toNat_natCast, zpow_natCast]
    push_cast
    ring
  · rename_i hk
    obtain ⟨j, hj⟩ := Int.eq_ofNat_of_zero_le (show 0 ≤ -k by omega)
    obtain rfl : k = -(j : Int) := by omega
    simp only [Nat.pow_eq, Int.neg_neg, Int.toNat_natCast, zpow_neg, zpow_natCast]
    push_cast
    field_simp

/-! ## The exponent -/

/-- The lengths of two numbers tell their quotient up to a factor of two. -/
theorem quotient_between {n m : Nat} (hn : n ≠ 0) (hm : m ≠ 0) :
    (2 : ℚ) ^ ((n.log2 : Int) - m.log2 - 1) < n / m ∧
      (n / m : ℚ) < 2 ^ ((n.log2 : Int) - m.log2 + 1) := by
  have hnlow : (2 : ℚ) ^ (n.log2 : Int) ≤ n := by exact_mod_cast Nat.log2_self_le hn
  have hnhigh : (n : ℚ) < 2 ^ ((n.log2 : Int) + 1) := by exact_mod_cast Nat.lt_log2_self
  have hmlow : (2 : ℚ) ^ (m.log2 : Int) ≤ m := by exact_mod_cast Nat.log2_self_le hm
  have hmhigh : (m : ℚ) < 2 ^ ((m.log2 : Int) + 1) := by exact_mod_cast Nat.lt_log2_self
  have hpos : (0 : ℚ) < m := by positivity
  constructor
  · rw [lt_div_iff₀ hpos]
    calc (2 : ℚ) ^ ((n.log2 : Int) - m.log2 - 1) * m
        < 2 ^ ((n.log2 : Int) - m.log2 - 1) * 2 ^ ((m.log2 : Int) + 1) := by gcongr
      _ = 2 ^ (n.log2 : Int) := by rw [← zpow_add₀ two_ne_zero]; congr 1; ring
      _ ≤ n := hnlow
  · rw [div_lt_iff₀ hpos]
    calc (n : ℚ) < 2 ^ ((n.log2 : Int) + 1) := hnhigh
      _ = 2 ^ ((n.log2 : Int) - m.log2 + 1) * 2 ^ (m.log2 : Int) := by
        rw [← zpow_add₀ two_ne_zero]; congr 1; ring
      _ ≤ 2 ^ ((n.log2 : Int) - m.log2 + 1) * m := by gcongr

/-- The exponent at which a number is rounded: counted in that power of two, the number is not
longer than a mantissa, and as long as one unless the exponent is the least. -/
structure RoundedAt (q : ℚ) (exponent : Int) : Prop where
  least : -1074 ≤ exponent
  lt : q < 2 ^ (exponent + 53)
  long : 2 ^ (exponent + 52) ≤ q ∨ exponent = -1074

theorem exists_roundedAt {n m : Nat} (hn : n ≠ 0) (hm : 0 < m) :
    ∃ exponent, RoundedAt (n / m) exponent ∧
      nearestBits n m =
        (let mantissa := roundedQuotient (scaledPair n m (-exponent)).1
          (scaledPair n m (-exponent)).2
         min (if mantissa < Nat.pow 2 52 then mantissa
            else (exponent + 1074).toNat * Nat.pow 2 52 + mantissa) (2047 * Nat.pow 2 52)) := by
  obtain ⟨hlow, hhigh⟩ := quotient_between hn hm.ne'
  have htoolong : ∀ exponent : Int,
      Nat.pow 2 53 ≤ (scaledPair n m (-exponent)).1 / (scaledPair n m (-exponent)).2 ↔
        (2 : ℚ) ^ (exponent + 53) ≤ n / m := by
    intro exponent
    have hpos := scaledPair_snd_pos hm n (-exponent)
    have hpos' : (0 : ℚ) < (scaledPair n m (-exponent)).2 := by exact_mod_cast hpos
    have hcast : ∀ a b : Nat, a ≤ b ↔ (a : ℚ) ≤ b := fun a b => Nat.cast_le.symm
    rw [Nat.le_div_iff_mul_le hpos, hcast, Nat.cast_mul, ← le_div_iff₀ hpos',
      scaledPair_quotient hm,
      zpow_neg, ← div_eq_mul_inv, le_div_iff₀ (by positivity), zpow_add₀ two_ne_zero, mul_comm]
    norm_num
  unfold nearestBits
  rw [if_neg hn]
  generalize (n.log2 : Int) - m.log2 = size at *
  dsimp only
  simp only [ge_iff_le, htoolong]
  refine ⟨if (2 : ℚ) ^ (max (size - 53) (-1074) + 53) ≤ n / m then max (size - 53) (-1074) + 1
    else max (size - 53) (-1074), ?_, rfl⟩
  have hmono : StrictMono fun k : Int => (2 : ℚ) ^ k := zpow_right_strictMono₀ one_lt_two
  split
  · rename_i hlarge
    -- a number too long for the first exponent is not small, and its size told that exponent
    have hsize : max (size - 53) (-1074) = size - 53 := by
      have hlt := hmono.lt_iff_lt.mp (hlarge.trans_lt hhigh)
      omega
    rw [hsize] at hlarge ⊢
    refine ⟨by omega, ?_, .inl ?_⟩
    · convert hhigh using 2
      ring
    · convert hlarge using 2
      ring
  · rename_i hsmall
    refine ⟨le_max_right _ _, not_le.mp hsmall, ?_⟩
    rcases max_choice (size - 53) (-1074) with hsize | hsize
    · rw [hsize]
      refine .inl ((le_of_eq ?_).trans hlow.le)
      congr 1
      ring
    · exact .inr hsize

/-! ## The nearest double -/

/-- The lower end of the numbers to which a double is the nearest, in quarters of its last place.
Below a power of two the doubles lie twice as close. -/
def lowEnd (mantissa : Nat) (exponent : Int) : Nat :=
  if mantissa = Nat.pow 2 52 ∧ exponent > -1074 then 4 * mantissa - 1 else 4 * mantissa - 2

/-- The double `mantissa * 2 ^ exponent` is the nearest to a number.  The ends lie halfway to its
neighbours, and belong to it when its mantissa is even. -/
def RoundsTo (q : ℚ) (mantissa : Nat) (exponent : Int) : Prop :=
  Within (mantissa % 2 = 0) (lowEnd mantissa exponent * 2 ^ (exponent - 2)) q
    ((4 * mantissa + 2) * 2 ^ (exponent - 2))

section Nearest

variable {q : ℚ} {mantissa : Nat} {exponent : Int}

theorem le_lowEnd (hpos : 0 < mantissa) (exponent : Int) :
    (4 * mantissa - 2 : ℚ) ≤ lowEnd mantissa exponent := by
  have hle : 4 * mantissa ≤ lowEnd mantissa exponent + 2 := by
    unfold lowEnd
    split <;> omega
  have hle : (4 * mantissa : ℚ) ≤ lowEnd mantissa exponent + 2 := by exact_mod_cast hle
  linarith

/-- Counted in the last place of the nearest double, a number is rounded to its mantissa. -/
theorem RoundsTo.within (h : RoundsTo q mantissa exponent) (hpos : 0 < mantissa) :
    Within (mantissa % 2 = 0) (mantissa - 1 / 2) (q * 2 ^ (-exponent)) (mantissa + 1 / 2) := by
  have hscale : (0 : ℚ) < 2 ^ (-exponent) := by positivity
  have hquarter : (2 : ℚ) ^ (exponent - 2) * 2 ^ (-exponent) = 1 / 4 := by
    have hexponent : exponent - 2 + -exponent = -2 := by ring
    rw [← zpow_add₀ two_ne_zero, hexponent]
    norm_num
  have hlow := le_lowEnd hpos exponent
  refine ((within_mul hscale).mpr h).mono ?_ ?_
  · rw [mul_assoc, hquarter]
    linarith
  · rw [mul_assoc, hquarter]
    linarith

theorem RoundsTo.ends (h : RoundsTo q mantissa exponent) (hpos : 0 < mantissa) :
    (mantissa - 1 / 2 : ℚ) * 2 ^ exponent ≤ q ∧ q ≤ (mantissa + 1 / 2) * 2 ^ exponent := by
  have hunit : (0 : ℚ) < 2 ^ exponent := by positivity
  have hscaled : q = q * 2 ^ (-exponent) * 2 ^ exponent := by
    rw [mul_assoc, ← zpow_add₀ two_ne_zero, neg_add_cancel, zpow_zero, mul_one]
  rw [hscaled]
  exact ((within_mul hunit).mpr (h.within hpos)).le

/-- A power of two is the nearest double also to numbers below it.  These are rounded at the
exponent below its own, to the first mantissa that is too long. -/
theorem RoundsTo.within_below (h : RoundsTo q (2 ^ 52) exponent) (hleast : -1074 < exponent)
    (hbelow : q < 2 ^ (exponent + 52)) :
    Within (2 ^ 53 % 2 = 0) ((2 ^ 53 : Nat) - 1 / 2) (q * 2 ^ (-(exponent - 1)))
      ((2 ^ 53 : Nat) + 1 / 2) := by
  have hscale : (0 : ℚ) < 2 ^ (-(exponent - 1)) := by positivity
  have hlow : lowEnd (2 ^ 52) exponent = 4 * 2 ^ 52 - 1 := if_pos ⟨rfl, hleast⟩
  have hends := ((within_mul hscale).mpr h).le.1
  have hhalf : exponent - 2 + -(exponent - 1) = -1 := by ring
  rw [hlow, mul_assoc, ← zpow_add₀ two_ne_zero, hhalf] at hends
  have hhigh : q * 2 ^ (-(exponent - 1)) < 2 ^ (53 : Int) := by
    calc q * 2 ^ (-(exponent - 1)) < 2 ^ (exponent + 52) * 2 ^ (-(exponent - 1)) := by gcongr
      _ = 2 ^ (53 : Int) := by rw [← zpow_add₀ two_ne_zero]; congr 1; ring
  norm_num at hends hhigh
  refine ⟨?_, ?_⟩
  · norm_num
    linarith
  · norm_num
    linarith

/-- A number is rounded at the exponent of the nearest double, unless this is a power of two and the
number lies below it. -/
theorem RoundsTo.exponent_eq (h : RoundsTo q mantissa exponent) {negative : Bool} {found : Int}
    (hnormal : (Binary.finite negative mantissa exponent).Normal) (hpos : 0 < mantissa)
    (hfound : RoundedAt q found) :
    found = exponent ∨
      (found = exponent - 1 ∧ mantissa = 2 ^ 52 ∧ -1074 < exponent ∧ q < 2 ^ (exponent + 52)) := by
  obtain ⟨hshort, hleast, hlong⟩ := hnormal
  obtain ⟨hleast', hlt, hlong'⟩ := hfound
  rw [leastExponent] at hleast hlong
  rw [Nat.pow_eq] at hlong hshort
  obtain ⟨hlow, hhigh⟩ := h.ends hpos
  have hmono : StrictMono fun k : Int => (2 : ℚ) ^ k := zpow_right_strictMono₀ one_lt_two
  have hunit : (0 : ℚ) < 2 ^ exponent := by positivity
  have hpow : ∀ k : Int, (2 : ℚ) ^ (exponent + k) = 2 ^ k * 2 ^ exponent := by
    intro k
    rw [zpow_add₀ two_ne_zero, mul_comm]
  have hbound : q < 2 ^ (exponent + 53) := by
    have hshort : (mantissa : ℚ) + 1 ≤ 2 ^ (53 : Int) := by exact_mod_cast hshort
    refine hhigh.trans_lt ?_
    rw [hpow 53]
    gcongr
    linarith
  have hnotabove : found ≤ exponent := by
    by_contra habove
    have hlong' := hlong'.resolve_right (by omega)
    have hlt := hmono.lt_iff_lt.mp (hlong'.trans_lt hbound)
    omega
  rcases Int.lt_or_eq_of_le hnotabove with hbelow | heq
  · have hlong := hlong.resolve_right (by omega)
    have hq : q < 2 ^ (exponent + 52) := hlt.trans_le (hmono.monotone (by omega))
    have hmantissa : mantissa = 2 ^ 52 := by
      by_contra hne
      have hgt : (2 : ℚ) ^ (52 : Int) + 1 ≤ mantissa := by
        exact_mod_cast (by omega : 2 ^ 52 + 1 ≤ mantissa)
      rw [hpow 52] at hq
      nlinarith
    refine .inr ⟨?_, hmantissa, by omega, hq⟩
    have habove : (2 : ℚ) ^ (exponent + 51) < 2 ^ (found + 53) := by
      refine (le_trans ?_ hlow).trans_lt hlt
      rw [hpow 51, hmantissa]
      gcongr
      norm_num
    have hexponent := hmono.lt_iff_lt.mp habove
    omega
  · exact .inl heq

variable {negative : Bool} {n m : Nat}

theorem nearestBits_eq (hnormal : (Binary.finite negative mantissa exponent).Normal)
    (hpos : 0 < mantissa) (hfinite : exponent ≤ 971) (hm : 0 < m)
    (h : RoundsTo (n / m) mantissa exponent) :
    nearestBits n m = magnitudeBits mantissa exponent := by
  have hn : n ≠ 0 := by
    rintro rfl
    have hlow := (h.within hpos).le.1
    have hone : (1 : ℚ) ≤ mantissa := by exact_mod_cast hpos
    norm_num at hlow
    linarith
  obtain ⟨found, hfound, hbits⟩ := exists_roundedAt hn hm
  have hround : ∀ k : Nat, Within (k % 2 = 0) (k - 1 / 2) (n / m * 2 ^ (-found)) (k + 1 / 2) →
      roundedQuotient (scaledPair n m (-found)).1 (scaledPair n m (-found)).2 = k := by
    intro k hk
    refine roundedQuotient_eq (scaledPair_snd_pos hm n _) ?_
    rw [scaledPair_quotient hm]
    exact hk
  rw [hbits, magnitudeBits]
  have hexponent := h.exponent_eq hnormal hpos hfound
  obtain ⟨hshort, hleast, hlong⟩ := hnormal
  rw [leastExponent] at hleast hlong
  rw [Nat.pow_eq] at hlong hshort
  dsimp only
  rcases hexponent with rfl | ⟨rfl, rfl, hleast', hbelow⟩
  · rw [hround mantissa (h.within hpos)]
    simp only [Nat.pow_eq]
    split <;> omega
  · -- the mantissa that is too long is carried over into the exponent
    rw [hround (2 ^ 53) (h.within_below hleast' hbelow)]
    simp only [Nat.pow_eq]
    split <;> omega

/-- A quotient is rounded to the double that is the nearest to it. -/
theorem nearest_eq {x : Float} (hx : Binary.ofFloat x = .finite negative mantissa exponent)
    (hpos : 0 < mantissa) (hm : 0 < m) (h : RoundsTo (n / m) mantissa exponent) :
    nearest negative n m = x := by
  obtain ⟨hfinite, hbits⟩ := Binary.toBits_of_finite hx
  have hnormal := Binary.normal_ofFloat x
  rw [hx] at hnormal
  rw [nearest, nearestBits_eq hnormal hpos hfinite hm h]
  exact Binary.ofBits_eq hbits

/-- The two zeros are what nothing is rounded to. -/
theorem nearest_zero {x : Float} (hx : Binary.ofFloat x = .finite negative 0 exponent) :
    nearest negative 0 1 = x := by
  obtain ⟨-, hbits⟩ := Binary.toBits_of_finite hx
  have hnormal := Binary.normal_ofFloat x
  rw [hx] at hnormal
  obtain ⟨-, -, hlong⟩ := hnormal
  obtain rfl : exponent = -(leastExponent : Int) := hlong.resolve_left (by decide)
  rw [leastExponent] at hbits
  exact Binary.ofBits_eq hbits

end Nearest

end WorkflowAudit.Decimal
