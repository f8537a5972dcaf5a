import WorkflowAudit.Decimal.Reading
import WorkflowAudit.Decimal.Shortest
import WorkflowAudit.Proofs.NearestDoubles

/-! # Shortest decimals read back

A double is written with the first grid of decimals that has a point among the numbers to which the
double is the nearest.  So the decimal reads back as the double (`shortestDigits_spec` and
`ofDecimal_eq`), provided that there is such a grid: the grids are tried up to seventeen digits, and
the last of them is always fine enough (`seventeen_fine`).

This rests on the place of the point, which is first guessed from the binary length of the double
and then moved.  What matters is that the guess is not too high, so that the grids are not coarser
than their number of digits says (`pow_point_le`).
-/
namespace WorkflowAudit

/-! ## Digits -/

namespace Text

theorem digitValue?_of_isAsciiDigit {c : Char} (h : isAsciiDigit c = true) :
    digitValue? c = some (c.toNat - 48) := by
  have hrange : '0' ≤ c ∧ c ≤ '9' := by simpa [isAsciiDigit] using h
  have hlast : c.toNat ≤ 57 := hrange.2
  rw [digitValue?, if_pos (by omega), if_pos hrange]

theorem isAsciiDigit_of_mem_decimalDigits {c : Char} {n : Nat} (h : c ∈ decimalDigits n) :
    isAsciiDigit c = true :=
  Nat.isDigit_of_mem_toDigits (by decide) (by decide) h

/-- The digits of a number spell it. -/
theorem digitsValue_decimalDigits (n : Nat) : digitsValue (decimalDigits n) = n := by
  have hvalue : digitsValue (decimalDigits n) = Nat.ofDigitChars 10 (decimalDigits n) 0 := by
    rw [digitsValue, Nat.ofDigitChars_eq_foldl]
    refine List.foldl_ext _ _ _ fun k c hc => ?_
    rw [digitValue?_of_isAsciiDigit (isAsciiDigit_of_mem_decimalDigits hc)]
    rfl
  rw [hvalue, decimalDigits, Nat.ofDigitChars_ten_toDigits]

theorem digitsValue_concat (digits : List Char) (c : Char) :
    digitsValue (digits ++ [c]) = 10 * digitsValue digits + (digitValue? c).getD 0 := by
  rw [digitsValue, List.foldl_append]
  rfl

theorem digitsValue_append (digits more : List Char) :
    digitsValue (digits ++ more) = digitsValue digits * 10 ^ more.length + digitsValue more := by
  induction more using List.reverseRecOn with
  | nil => rw [List.append_nil, List.length_nil, pow_zero, mul_one]; rfl
  | append_singleton more c ih =>
    rw [← List.append_assoc, digitsValue_concat, digitsValue_concat, ih, List.length_append,
      List.length_singleton, pow_succ]
    ring

@[simp] theorem digitsValue_zeros (count : Nat) : digitsValue (List.replicate count '0') = 0 := by
  induction count with
  | zero => rfl
  | succ count ih =>
    rw [List.replicate_succ', digitsValue_concat, ih]
    rfl

/-- The digits of a positive number do not begin with zero. -/
theorem exists_decimalDigits {n : Nat} (h : 0 < n) :
    ∃ c rest, decimalDigits n = c :: rest ∧ c ≠ '0' := by
  induction n using Nat.strongRecOn with
  | ind n ih =>
    unfold decimalDigits
    rw [Nat.toDigits_eq_if (by decide)]
    split
    · refine ⟨_, _, rfl, ?_⟩
      rw [Ne, Nat.digitChar_eq_zero]
      exact h.ne'
    · obtain ⟨c, rest, hdigits, hc⟩ := ih (n / 10) (by omega) (by omega)
      rw [decimalDigits] at hdigits
      rw [hdigits]
      exact ⟨c, _, rfl, hc⟩

/-- The number of digits tells the size of a positive number. -/
theorem pow_length_decimalDigits {n : Nat} (h : 0 < n) :
    10 ^ (decimalDigits n).length ≤ 10 * n ∧ n < 10 ^ (decimalDigits n).length := by
  have hpos : 0 < (decimalDigits n).length := Nat.length_toDigits_pos
  refine ⟨?_, (Nat.length_toDigits_le_iff (by decide) hpos).mp (Nat.le_refl _)⟩
  obtain ⟨k, hk⟩ : ∃ k, (decimalDigits n).length = k + 1 := ⟨_, (Nat.succ_pred_eq_of_pos hpos).symm⟩
  rw [hk, pow_succ, Nat.mul_comm]
  refine Nat.mul_le_mul_left 10 ?_
  rcases Nat.eq_zero_or_pos k with rfl | hsome
  · exact h
  · by_contra hlt
    have hshort : (decimalDigits n).length ≤ k :=
      (Nat.length_toDigits_le_iff (by decide) hsome).mpr (Nat.not_le.mp hlt)
    omega

end Text

namespace Decimal

/-! ## Grids -/

section Grid

variable {unit step point : Int} {top bottom low middle high candidate count : Nat}
    {inclusive : Bool}

/-- The quotient with which a grid is tested relates its step to the unit. -/
theorem gridPair_quotient
    (h : (if step ≥ 0 then ((scaledPair 1 1 unit).1,
      (scaledPair 1 1 unit).2 * Nat.pow 10 step.toNat)
      else ((scaledPair 1 1 unit).1 * Nat.pow 10 (-step).toNat, (scaledPair 1 1 unit).2)) =
        (top, bottom)) :
    0 < bottom ∧ (top : ℚ) * 10 ^ step = bottom * 2 ^ unit := by
  have hpos := scaledPair_snd_pos Nat.one_pos 1 unit
  have hquotient := scaledPair_quotient Nat.one_pos 1 unit
  have hpos' : (0 : ℚ) < (scaledPair 1 1 unit).2 := by exact_mod_cast hpos
  rw [div_eq_iff hpos'.ne'] at hquotient
  split at h
  · rename_i hstep
    obtain ⟨rfl, rfl⟩ := Prod.mk.inj h
    obtain ⟨j, rfl⟩ := Int.eq_ofNat_of_zero_le hstep
    refine ⟨Nat.mul_pos hpos (Nat.pow_pos (by decide)), ?_⟩
    rw [hquotient]
    simp only [Nat.pow_eq, Int.toNat_natCast, zpow_natCast]
    push_cast
    ring
  · rename_i hstep
    obtain ⟨rfl, rfl⟩ := Prod.mk.inj h
    obtain ⟨j, hj⟩ := Int.eq_ofNat_of_zero_le (show 0 ≤ -step by omega)
    obtain rfl : step = -(j : Int) := by omega
    refine ⟨hpos, ?_⟩
    simp only [Nat.pow_eq, Int.neg_neg, Int.toNat_natCast, zpow_neg, zpow_natCast]
    push_cast
    rw [hquotient]
    field_simp

theorem hits_iff (hbottom : 0 < bottom) (hpair : (top : ℚ) * 10 ^ step = bottom * 2 ^ unit) :
    (if inclusive = true then
        decide (low * top ≤ candidate * bottom) && decide (candidate * bottom ≤ high * top)
      else decide (low * top < candidate * bottom) && decide
        (candidate * bottom < high * top)) = true ↔
      Within inclusive (low * 2 ^ unit) (candidate * 10 ^ step) (high * 2 ^ unit) := by
  have hbottom' : (0 : ℚ) < bottom := by exact_mod_cast hbottom
  have hten : (0 : ℚ) < 10 ^ step := by positivity
  have hend : ∀ k : Nat, (k * 2 ^ unit * bottom : ℚ) = ((k * top : Nat) : ℚ) * 10 ^ step := by
    intro k
    push_cast
    rw [mul_assoc, mul_comm ((2 : ℚ) ^ unit), ← hpair, mul_assoc]
  have hcandidate :
      (candidate * 10 ^ step * bottom : ℚ) = ((candidate * bottom : Nat) : ℚ) * 10 ^ step := by
    push_cast
    ring
  rw [← within_mul hbottom', hend, hend, hcandidate, within_mul hten]
  unfold Within
  cases inclusive with
  | true => simp only [if_true, Bool.and_eq_true, decide_eq_true_iff, Nat.cast_le]
  | false =>
    simp only [Bool.false_eq_true, if_false, Bool.and_eq_true, decide_eq_true_iff, Nat.cast_lt]

/-- A point that is found on a grid lies between the ends. -/
theorem within_of_gridHit? {found : Nat}
    (h : gridHit? low middle high unit inclusive point count = some found) :
    Within inclusive (low * 2 ^ unit) (found * 10 ^ (point - count)) (high * 2 ^ unit) := by
  unfold gridHit? at h
  dsimp only at h
  generalize hpair : (if point - (count : Int) ≥ 0 then
    ((scaledPair 1 1 unit).1, (scaledPair 1 1 unit).2 * Nat.pow 10 (point - (count : Int)).toNat)
    else ((scaledPair 1 1 unit).1 * Nat.pow 10 (-(point - (count : Int))).toNat,
      (scaledPair 1 1 unit).2)) = pair at h
  obtain ⟨top, bottom⟩ := pair
  obtain ⟨hbottom, hquotient⟩ := gridPair_quotient hpair
  rw [← hits_iff hbottom hquotient]
  dsimp only at h
  split at h
  · rename_i hfloor hnext
    split at h
    · obtain rfl := Option.some.inj h
      exact hfloor
    · split at h
      · obtain rfl := Option.some.inj h
        exact hnext
      · split at h
        · obtain rfl := Option.some.inj h
          exact hfloor
        · obtain rfl := Option.some.inj h
          exact hnext
  · obtain rfl := Option.some.inj h
    assumption
  · obtain rfl := Option.some.inj h
    assumption
  · cases h

/-- A grid whose points are closer than the ends has one between them. -/
theorem gridHit?_isSome (hlow : low < middle) (hhigh : middle < high)
    (hfine : (10 : ℚ) ^ (point - count) < (high - low) * 2 ^ unit) :
    (gridHit? low middle high unit inclusive point count).isSome = true := by
  unfold gridHit?
  dsimp only
  generalize hpair : (if point - (count : Int) ≥ 0 then
    ((scaledPair 1 1 unit).1, (scaledPair 1 1 unit).2 * Nat.pow 10 (point - (count : Int)).toNat)
    else ((scaledPair 1 1 unit).1 * Nat.pow 10 (-(point - (count : Int))).toNat,
      (scaledPair 1 1 unit).2)) = pair
  obtain ⟨top, bottom⟩ := pair
  obtain ⟨hbottom, hquotient⟩ := gridPair_quotient hpair
  dsimp only
  split
  · split
    · rfl
    · split
      · rfl
      · split <;> rfl
  · rfl
  · rfl
  · rename_i hfloor hnext
    -- both ends would lie between two points of the grid that follow each other
    exfalso
    have hten : (0 : ℚ) < 10 ^ (point - (count : Int)) := by positivity
    have hbottom' : (0 : ℚ) < bottom := by exact_mod_cast hbottom
    have hfine : (bottom : ℚ) < (high - low) * top := by
      refine (mul_lt_mul_iff_left₀ hten).mp ?_
      calc (bottom : ℚ) * 10 ^ (point - (count : Int)) <
        bottom * ((high - low) * 2 ^ unit) := by gcongr
        _ = (high - low) * (top * 10 ^ (point - (count : Int))) := by rw [hquotient]; ring
        _ = (high - low) * top * 10 ^ (point - (count : Int)) := by ring
    have htop : 0 < top := by
      refine Nat.pos_of_ne_zero ?_
      rintro rfl
      rw [Nat.cast_zero, mul_zero] at hfine
      exact hfine.not_gt hbottom'
    have hends : low * top + bottom < high * top := by
      have hends : (low * top + bottom : ℚ) < high * top := by linarith
      exact_mod_cast hends
    have hlow := Nat.mul_lt_mul_of_pos_right hlow htop
    have hhigh := Nat.mul_lt_mul_of_pos_right hhigh htop
    have hbelow := Nat.div_mul_le_self (middle * top) bottom
    have habove : middle * top < middle * top / bottom * bottom + bottom :=
        Nat.lt_div_mul_add hbottom
    rw [Nat.succ_mul] at hnext
    cases inclusive with
    | true =>
      simp only [if_true, Bool.and_eq_false_iff, decide_eq_false_iff_not] at hfloor hnext
      omega
    | false =>
      simp only [Bool.false_eq_true, if_false, Bool.and_eq_false_iff, decide_eq_false_iff_not]
        at hfloor hnext
      omega

/-- The first grid with a point is found, if there is one among those that are tried. -/
theorem gridHit?_firstHit {fuel : Nat}
    (h : ∃ k < fuel, (gridHit? low middle high unit inclusive point (count + k)).isSome = true) :
    gridHit? low middle high unit inclusive point
        (firstHit low middle high unit inclusive point fuel count).2 =
      some (firstHit low middle high unit inclusive point fuel count).1 := by
  induction fuel generalizing count with
  | zero =>
    obtain ⟨k, hk, -⟩ := h
    exact absurd hk (Nat.not_lt_zero k)
  | succ fuel ih =>
    rw [firstHit]
    cases hhit : gridHit? low middle high unit inclusive point count with
    | some digits => exact hhit
    | none =>
      refine ih ?_
      obtain ⟨k, hk, hsome⟩ := h
      cases k with
      | zero =>
        rw [Nat.add_zero, hhit] at hsome
        cases hsome
      | succ k => exact ⟨k, Nat.lt_of_succ_lt_succ hk, by rwa [Nat.add_right_comm, Nat.add_assoc]⟩

end Grid

/-! ## The place of the point -/

section Point

variable {n m : Nat}

theorem below_iff (hm : 0 < m) (start : Int) :
    (if start ≥ 0 then n < m * Nat.pow 10 start.toNat else n * Nat.pow 10 (-start).toNat < m) ↔
      (n / m : ℚ) < 10 ^ start := by
  have hm' : (0 : ℚ) < m := by exact_mod_cast hm
  rw [div_lt_iff₀ hm']
  split
  · rename_i hstart
    obtain ⟨j, rfl⟩ := Int.eq_ofNat_of_zero_le hstart
    rw [Int.toNat_natCast, Nat.pow_eq, mul_comm, zpow_natCast]
    exact_mod_cast Iff.rfl
  · rename_i hstart
    obtain ⟨j, hj⟩ := Int.eq_ofNat_of_zero_le (show 0 ≤ -start by omega)
    obtain rfl : start = -(j : Int) := by omega
    rw [Int.neg_neg, Int.toNat_natCast, Nat.pow_eq, zpow_neg, zpow_natCast, inv_mul_eq_div,
      lt_div_iff₀ (by positivity)]
    exact_mod_cast Iff.rfl

/-- The place of the point is not moved too far. -/
theorem pow_leastPower_le (hm : 0 < m) {fuel : Nat} {start : Int}
    (h : (10 : ℚ) ^ (start - 1) ≤ n / m) : (10 : ℚ) ^ (leastPower n m fuel start - 1) ≤ n / m := by
  induction fuel generalizing start with
  | zero => exact h
  | succ fuel ih =>
    rw [leastPower]
    by_cases hbelow : (n / m : ℚ) < 10 ^ start
    · rw [if_pos ((below_iff hm start).mpr hbelow)]
      exact h
    · rw [if_neg (mt (below_iff hm start).mp hbelow)]
      refine ih ?_
      rw [Int.add_sub_cancel]
      exact not_lt.mp hbelow

/-- For the sizes of doubles, the guess from the binary length is not too high by more than one. -/
theorem pow_ten_le_pow_two {a : Int} (hlow : -1100 ≤ a) (hhigh : a ≤ 1100) :
    (10 : ℚ) ^ (a * 30103 / 100000 - 1) ≤ 2 ^ a := by
  have hstart : 100000 * (a * 30103 / 100000) ≤ 30103 * a := by omega
  generalize a * 30103 / 100000 = s at *
  have hpow : ∀ k : Nat, k ≠ 0 → (10 : ℚ) ^ (s * k) ≤ 2 ^ ((a + 3) * k) →
      (10 : ℚ) ^ (s - 1) ≤ 2 ^ a := by
    intro k hk hle
    rw [zpow_mul, zpow_mul, zpow_natCast, zpow_natCast,
      pow_le_pow_iff_left₀ (by positivity) (by positivity) hk] at hle
    rw [zpow_sub_one₀ (by norm_num), mul_inv_le_iff₀ (by norm_num)]
    refine hle.trans ?_
    rw [zpow_add₀ two_ne_zero]
    gcongr
    norm_num
  have hmono : Monotone fun k : Int => (2 : ℚ) ^ k := zpow_right_mono₀ one_le_two
  -- powers of ten are compared with close powers of two, from above and from below
  rcases Int.le_total 0 s with hs | hs
  · refine hpow 59 (by decide) ?_
    obtain ⟨j, rfl⟩ := Int.eq_ofNat_of_zero_le hs
    calc (10 : ℚ) ^ ((j : Int) * (59 : Nat)) = (10 ^ 59) ^ j := by
          rw [← pow_mul, ← zpow_natCast]; congr 1; push_cast; ring
      _ ≤ (2 ^ 196) ^ j := by gcongr; norm_num
      _ = 2 ^ ((j : Int) * 196) := by rw [← pow_mul, ← zpow_natCast]; congr 1; push_cast; ring
      _ ≤ 2 ^ ((a + 3) * (59 : Nat)) := hmono (by omega)
  · refine hpow 28 (by decide) ?_
    obtain ⟨j, hj⟩ := Int.eq_ofNat_of_zero_le (show 0 ≤ -s by omega)
    obtain rfl : s = -(j : Int) := by omega
    calc (10 : ℚ) ^ (-(j : Int) * (28 : Nat)) = ((10 ^ 28) ^ j)⁻¹ := by
          rw [← pow_mul, ← zpow_natCast, ← zpow_neg]; congr 1; push_cast; ring
      _ ≤ ((2 ^ 93) ^ j)⁻¹ := by gcongr; norm_num
      _ = 2 ^ (-(j : Int) * 93) := by
          rw [← pow_mul, ← zpow_natCast, ← zpow_neg]; congr 1; push_cast; ring
      _ ≤ 2 ^ ((a + 3) * (28 : Nat)) := hmono (by omega)

end Point

/-! ## Decimals -/

/-- The number that a decimal stands for. -/
def Digits.value (d : Digits) : ℚ :=
  Text.digitsValue d.digits * 10 ^ (d.point - d.digits.length)

/-- A decimal is made of digits, the first of which is not zero. -/
structure Digits.Proper (d : Digits) : Prop where
  areDigits : ∀ c ∈ d.digits, Text.isAsciiDigit c = true
  lead : ∃ c rest, d.digits = c :: rest ∧ c ≠ '0'

/-- Only zeros are taken off at the end. -/
theorem exists_trimmed (digits : List Char) :
    ∃ zeros, digits = (digits.reverse.dropWhile (· = '0')).reverse ++ List.replicate zeros '0' := by
  refine ⟨(digits.reverse.takeWhile (· = '0')).length, ?_⟩
  have hzeros : digits.reverse.takeWhile (· = '0') =
      List.replicate (digits.reverse.takeWhile (· = '0')).length '0' :=
    List.eq_replicate_of_mem fun c hc => by simpa using List.mem_takeWhile_imp hc
  calc digits
      = (digits.reverse.takeWhile (· = '0') ++ digits.reverse.dropWhile (· = '0')).reverse := by
        rw [List.takeWhile_append_dropWhile, List.reverse_reverse]
    _ = _ := by
        rw [List.reverse_append]
        conv_lhs => rw [hzeros]
        rw [List.reverse_replicate]

theorem proper_of_trimmed {value : Nat} (hpos : 0 < value) (point : Int) :
    Digits.Proper ⟨((Text.decimalDigits value).reverse.dropWhile (· = '0')).reverse, point⟩ := by
  obtain ⟨zeros, htrimmed⟩ := exists_trimmed (Text.decimalDigits value)
  obtain ⟨c, rest, hdigits, hc⟩ := Text.exists_decimalDigits hpos
  constructor
  · intro c hmem
    have hmem := List.mem_append_left (List.replicate zeros '0') hmem
    rw [← htrimmed] at hmem
    exact Text.isAsciiDigit_of_mem_decimalDigits hmem
  · dsimp only
    cases h : ((Text.decimalDigits value).reverse.dropWhile (· = '0')).reverse with
    | nil =>
      rw [h, List.nil_append, hdigits] at htrimmed
      have hmem : c ∈ List.replicate zeros '0' := htrimmed ▸ List.mem_cons_self
      exact absurd (List.eq_of_mem_replicate hmem) hc
    | cons d more =>
      rw [h, hdigits] at htrimmed
      exact ⟨d, more, rfl, (List.cons.inj htrimmed).1 ▸ hc⟩

theorem value_of_trimmed (value count : Nat) (point : Int) :
    Digits.value ⟨((Text.decimalDigits value).reverse.dropWhile (· = '0')).reverse,
      point + (((Text.decimalDigits value).length : Int) - count)⟩ =
        value * 10 ^ (point - count) := by
  obtain ⟨zeros, htrimmed⟩ := exists_trimmed (Text.decimalDigits value)
  generalize ((Text.decimalDigits value).reverse.dropWhile (· = '0')).reverse = trimmed at *
  have hlength : (Text.decimalDigits value).length = trimmed.length + zeros := by
    rw [htrimmed, List.length_append, List.length_replicate]
  have hvalue : value = Text.digitsValue trimmed * 10 ^ zeros := by
    have hspelt := congrArg Text.digitsValue htrimmed
    rwa [Text.digitsValue_decimalDigits, Text.digitsValue_append, Text.digitsValue_zeros,
      List.length_replicate, Nat.add_zero] at hspelt
  have hvalue : (value : ℚ) = Text.digitsValue trimmed * 10 ^ zeros := by exact_mod_cast hvalue
  rw [Digits.value, hlength, hvalue, mul_assoc, ← zpow_natCast, ← zpow_add₀ (by norm_num)]
  congr 2
  push_cast
  ring

/-! ## Writing and reading a double -/

section Shortest

variable {negative : Bool} {mantissa : Nat} {exponent : Int}

theorem pow_point_le (hnormal : (Binary.finite negative mantissa exponent).Normal)
    (hpos : 0 < mantissa)
    (hfinite : exponent ≤ 971) {n m : Nat} (hm : 0 < m)
    (hquotient : (n / m : ℚ) = mantissa * 2 ^ exponent) :
    (10 : ℚ) ^ (leastPower n m 4 (((n.log2 : Int) - m.log2 - 1) * 30103 / 100000) - 1) ≤
      mantissa * 2 ^ exponent := by
  obtain ⟨hshort, hleast, -⟩ := hnormal
  rw [leastExponent] at hleast
  rw [Nat.pow_eq] at hshort
  have hvalue : (0 : ℚ) < mantissa * 2 ^ exponent := by positivity
  have hn : n ≠ 0 := by
    rintro rfl
    rw [← hquotient, Nat.cast_zero, zero_div] at hvalue
    exact lt_irrefl 0 hvalue
  obtain ⟨hlow, hhigh⟩ := quotient_between hn hm.ne'
  have hmono : StrictMono fun k : Int => (2 : ℚ) ^ k := zpow_right_strictMono₀ one_lt_two
  have hone : (1 : ℚ) ≤ mantissa := by exact_mod_cast hpos
  have hshort : (mantissa : ℚ) ≤ 2 ^ (53 : Int) := by exact_mod_cast hshort.le
  have hlarge : (2 : ℚ) ^ exponent ≤ mantissa * 2 ^ exponent :=
    le_mul_of_one_le_left (by positivity) hone
  have hsmall : (mantissa * 2 ^ exponent : ℚ) ≤ 2 ^ (53 + exponent) := by
    rw [zpow_add₀ two_ne_zero]
    gcongr
  have habove := hmono.lt_iff_lt.mp (hlow.trans_le (hquotient.le.trans hsmall))
  have hbelow := hmono.lt_iff_lt.mp ((hlarge.trans hquotient.ge).trans_lt hhigh)
  rw [← hquotient]
  exact pow_leastPower_le hm ((pow_ten_le_pow_two (by omega) (by omega)).trans hlow.le)

/-- Seventeen digits tell every double from its neighbours. -/
theorem seventeen_fine (hnormal : (Binary.finite negative mantissa exponent).Normal)
    (hpos : 0 < mantissa) {point : Int}
    (hpoint : (10 : ℚ) ^ (point - 1) ≤ mantissa * 2 ^ exponent) :
    (10 : ℚ) ^ (point - (17 : Nat)) <
      ((4 * mantissa + 2 : Nat) - lowEnd mantissa exponent) * 2 ^ (exponent - 2) := by
  obtain ⟨hshort, -, -⟩ := hnormal
  rw [Nat.pow_eq] at hshort
  have hshort : (mantissa : ℚ) ≤ 2 ^ 53 := by exact_mod_cast hshort.le
  have hunit : (0 : ℚ) < 2 ^ exponent := by positivity
  have hgrid : (10 : ℚ) ^ (point - (17 : Nat)) ≤ mantissa * 2 ^ exponent / 10 ^ 16 := by
    rw [le_div_iff₀ (by norm_num)]
    refine (le_of_eq ?_).trans hpoint
    rw [← zpow_natCast, ← zpow_add₀ (by norm_num)]
    congr 1
    push_cast
    ring
  refine hgrid.trans_lt ?_
  have hquarter : (2 : ℚ) ^ (exponent - 2) = 2 ^ exponent / 4 := by
    rw [zpow_sub₀ two_ne_zero]
    norm_num
  rw [hquarter, lowEnd]
  split
  · -- the ends of a power of two are closer, but so are then the points of the grid
    rename_i hpower
    rw [hpower.1, Nat.pow_eq]
    norm_num
    linarith
  · have hlow : ((4 * mantissa - 2 : Nat) : ℚ) = 4 * mantissa - 2 := by
      rw [Nat.cast_sub (by omega)]
      push_cast
      ring
    rw [hlow]
    push_cast
    nlinarith

/-- The shortest digits of a double stand for a number to which it is the nearest. -/
theorem shortestDigits_spec (hnormal : (Binary.finite negative mantissa exponent).Normal)
    (hpos : 0 < mantissa) (hfinite : exponent ≤ 971) :
    (shortestDigits mantissa exponent).Proper ∧
      RoundsTo (shortestDigits mantissa exponent).value mantissa exponent := by
  have hpoint := pow_point_le hnormal hpos hfinite
      (scaledPair_snd_pos Nat.one_pos mantissa exponent)
    (by rw [scaledPair_quotient Nat.one_pos, Nat.cast_one, div_one])
  unfold shortestDigits
  dsimp only
  generalize leastPower _ _ _ _ = point at *
  have hlow : lowEnd mantissa exponent < 4 * mantissa := by
    unfold lowEnd
    split <;> omega
  obtain ⟨found, hfound⟩ : ∃ found, firstHit (lowEnd mantissa exponent) (4 * mantissa)
      (4 * mantissa + 2) (exponent - 2) (mantissa % 2 = 0) point 17 1 = found := ⟨_, rfl⟩
  have hhit : gridHit? (lowEnd mantissa exponent) (4 * mantissa) (4 * mantissa + 2) (exponent - 2)
      (mantissa % 2 = 0) point found.2 = some found.1 := by
    rw [← hfound]
    exact gridHit?_firstHit ⟨16, by decide,
      gridHit?_isSome hlow (Nat.lt_add_of_pos_right two_pos) (seventeen_fine hnormal hpos hpoint)⟩
  have hrounds : RoundsTo (found.1 * 10 ^ (point - found.2)) mantissa exponent := by
    have hwithin := within_of_gridHit? hhit
    push_cast at hwithin
    exact hwithin
  have hsome : 0 < found.1 := by
    refine Nat.pos_of_ne_zero fun hzero => ?_
    have hends := (hrounds.ends hpos).1
    have hone : (1 : ℚ) ≤ mantissa := by exact_mod_cast hpos
    have hunit : (0 : ℚ) < 2 ^ exponent := by positivity
    rw [hzero, Nat.cast_zero, zero_mul] at hends
    nlinarith
  rw [← value_of_trimmed, ← hfound] at hrounds
  rw [← hfound] at hsome
  exact ⟨proper_of_trimmed hsome _, hrounds⟩

theorem pow_two_le_pow_ten : (2 : ℚ) ^ (1200 : Int) ≤ 10 ^ (400 : Int) := by
  have hthree : (1200 : Int) = 3 * 400 := by norm_num
  rw [hthree, zpow_mul]
  exact zpow_le_zpow_left₀ (by norm_num) (by positivity) (by norm_num)

/-- A number with a nearest double is neither too small nor too large to be read. -/
theorem RoundsTo.between {q : ℚ} (h : RoundsTo q mantissa exponent)
    (hnormal : (Binary.finite negative mantissa exponent).Normal) (hpos : 0 < mantissa)
    (hfinite : exponent ≤ 971) : (10 : ℚ) ^ (-400 : Int) ≤ q ∧ q < 10 ^ (400 : Int) := by
  obtain ⟨hshort, hleast, -⟩ := hnormal
  rw [leastExponent] at hleast
  rw [Nat.pow_eq] at hshort
  obtain ⟨hlow, hhigh⟩ := h.ends hpos
  have hmono : StrictMono fun k : Int => (2 : ℚ) ^ k := zpow_right_strictMono₀ one_lt_two
  have hone : (1 : ℚ) ≤ mantissa := by exact_mod_cast hpos
  have hshort : (mantissa : ℚ) + 1 ≤ 2 ^ (53 : Int) := by exact_mod_cast hshort
  constructor
  · calc (10 : ℚ) ^ (-400 : Int) ≤ 2 ^ (-1200 : Int) := by
          rw [zpow_neg, zpow_neg]
          exact inv_anti₀ (by positivity) pow_two_le_pow_ten
      _ ≤ 2 ^ (exponent - 1) := hmono.monotone (by omega)
      _ = 1 / 2 * 2 ^ exponent := by rw [zpow_sub_one₀ two_ne_zero]; ring
      _ ≤ (mantissa - 1 / 2) * 2 ^ exponent := by gcongr; linarith
      _ ≤ q := hlow
  · calc q ≤ (mantissa + 1 / 2) * 2 ^ exponent := hhigh
      _ ≤ 2 ^ (53 : Int) * 2 ^ exponent := by gcongr; linarith
      _ = 2 ^ (53 + exponent) := by rw [zpow_add₀ two_ne_zero]
      _ < 2 ^ (1200 : Int) := hmono (by omega)
      _ ≤ 10 ^ (400 : Int) := pow_two_le_pow_ten

/-- A decimal is read as the double that is the nearest to it. -/
theorem ofDecimal_eq {x : Float} (hx : Binary.ofFloat x = .finite negative mantissa exponent)
    (hpos : 0 < mantissa) {digits : Nat} {scale : Int}
    (h : RoundsTo (digits * 10 ^ scale) mantissa exponent) :
    ofDecimal negative digits scale = x := by
  obtain ⟨hfinite, -⟩ := Binary.toBits_of_finite hx
  have hnormal := Binary.normal_ofFloat x
  rw [hx] at hnormal
  obtain ⟨hlow, hhigh⟩ := h.between hnormal hpos hfinite
  have hdigits : 0 < digits := by
    refine Nat.pos_of_ne_zero fun hzero => ?_
    rw [hzero, Nat.cast_zero, zero_mul] at hlow
    exact hlow.not_gt (by positivity)
  have hmono : StrictMono fun k : Int => (10 : ℚ) ^ k := zpow_right_strictMono₀ (by norm_num)
  have hsize : -400 ≤ ((Text.decimalDigits digits).length : Int) + scale ∧
      ((Text.decimalDigits digits).length : Int) + scale ≤ 400 := by
    obtain ⟨hleast, hmost⟩ := Text.pow_length_decimalDigits hdigits
    have habove : (10 : ℚ) ^ (((Text.decimalDigits digits).length : Int) + scale) <
        10 ^ (401 : Int) := by
      calc (10 : ℚ) ^ (((Text.decimalDigits digits).length : Int) + scale)
          = 10 ^ (Text.decimalDigits digits).length * 10 ^ scale := by
            rw [zpow_add₀ (by norm_num), zpow_natCast]
        _ ≤ 10 * digits * 10 ^ scale := by gcongr; exact_mod_cast hleast
        _ = 10 * (digits * 10 ^ scale) := mul_assoc _ _ _
        _ < 10 * 10 ^ (400 : Int) := by gcongr
        _ = 10 ^ (401 : Int) := (zpow_one_add₀ (by norm_num) 400).symm
    have hbelow : (digits * 10 ^ scale : ℚ) <
        10 ^ (((Text.decimalDigits digits).length : Int) + scale) := by
      rw [zpow_add₀ (by norm_num)]
      gcongr
      exact_mod_cast hmost
    have hmore := hmono.lt_iff_lt.mp (hlow.trans_lt hbelow)
    have hless := hmono.lt_iff_lt.mp habove
    omega
  unfold ofDecimal
  dsimp only
  rw [if_neg (by omega), if_neg (by omega)]
  split
  · rename_i hscale
    obtain ⟨j, rfl⟩ := Int.eq_ofNat_of_zero_le hscale
    refine nearest_eq hx hpos Nat.one_pos ?_
    rw [Int.toNat_natCast, Nat.pow_eq, Nat.cast_one, div_one]
    push_cast
    exact h
  · rename_i hscale
    obtain ⟨j, hj⟩ := Int.eq_ofNat_of_zero_le (show 0 ≤ -scale by omega)
    obtain rfl : scale = -(j : Int) := by omega
    refine nearest_eq hx hpos (Nat.pow_pos (by decide)) ?_
    rw [Int.neg_neg, Int.toNat_natCast, Nat.pow_eq]
    rw [zpow_neg, zpow_natCast, ← div_eq_mul_inv] at h
    push_cast
    exact h

end Shortest

end Decimal
end WorkflowAudit
