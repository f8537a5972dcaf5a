import WorkflowAudit.Json.Reader
import WorkflowAudit.Json.Writer
import WorkflowAudit.Proofs.ShortestDecimals

/-! # Written scalars

A scalar is written as a word, as a number or as a text between quotes (`ScalarText`), and each of
these is read back as the scalar, whatever follows that could not belong to it.

Numbers have the form of a `Numeral`, whose parts are made of digits, and a numeral is read as the
value that its parts give (`Numeral.Proper.readValue_text`).  That a double is the value of its
numeral is what its digits are chosen for (`exists_numeral_floatText`).  A character of a text has
one of four written forms (`WrittenAs`), and each of them is read as the character
(`readText_quoted`).

What is written is plain: printed characters without a semicolon, except for the semicolons of the
texts (`ScalarText.isPlain`).
-/
namespace WorkflowAudit
namespace Json

/-! ## Numerals -/

/-- What follows does not go on with digits. -/
def EndsDigits (rest : List Char) : Prop :=
  ∀ c, rest.head? = some c → Text.isAsciiDigit c = false

/-- What follows does not go on with a number. -/
def EndsNumber (rest : List Char) : Prop :=
  ∀ c, rest.head? = some c → Text.isAsciiDigit c = false ∧ c ≠ '.' ∧ c ≠ 'e' ∧ c ≠ 'E'

theorem endsNumber_nil : EndsNumber [] := fun c hc => (by cases hc)

theorem endsNumber_cons (c : Char) (rest : List Char)
    (h : Text.isAsciiDigit c = false ∧ c ≠ '.' ∧ c ≠ 'e' ∧ c ≠ 'E') : EndsNumber (c :: rest) := by
  intro d hd
  obtain rfl : c = d := by simpa using hd
  exact h

theorem takeWhile_digits {digits rest : List Char}
    (hdigits : ∀ c ∈ digits, Text.isAsciiDigit c = true) (hrest : EndsDigits rest) :
    (digits ++ rest).takeWhile Text.isAsciiDigit = digits := by
  rw [List.takeWhile_append_of_pos hdigits]
  cases rest with
  | nil => rw [List.takeWhile_nil, List.append_nil]
  | cons c rest =>
    rw [List.takeWhile_cons_of_neg (by rw [hrest c rfl]; exact Bool.false_ne_true), List.append_nil]

/-- The parts of a number: its sign, the digits before and behind the point, and the sign and the
digits of its exponent. -/
structure Numeral where
  negative : Bool
  whole : List Char
  fraction : List Char
  exponent : Option (Bool × List Char)

namespace Numeral

/-- The fraction with its point; without digits there is none. -/
def fractionText (n : Numeral) : List Char :=
  if n.fraction = [] then [] else '.' :: n.fraction

/-- The exponent with its letter and its sign. -/
def exponentText (n : Numeral) : List Char :=
  n.exponent.elim [] fun e => 'e' :: (if e.1 then '-' else '+') :: e.2

/-- The text of a numeral. -/
def text (n : Numeral) : List Char :=
  (if n.negative then ['-'] else []) ++ (n.whole ++ (n.fractionText ++ n.exponentText))

/-- The number that the digits spell without regard to the point. -/
def mantissa (n : Numeral) : Nat :=
  Text.digitsValue (n.whole ++ n.fraction)

/-- The number that the exponent spells. -/
def power (n : Numeral) : Option Int :=
  n.exponent.map fun e => if e.1 then -(Text.digitsValue e.2 : Int) else Text.digitsValue e.2

/-- The power of ten by which the mantissa is multiplied. -/
def scale (n : Numeral) : Int :=
  n.power.getD 0 - n.fraction.length

/-- A number with a fraction or an exponent is a double, any other an integer. -/
def value (n : Numeral) : Value :=
  if n.fraction = [] ∧ n.exponent = none then
    .int (if n.negative then -(Text.digitsValue n.whole : Int) else Text.digitsValue n.whole)
  else .float (Decimal.ofDecimal n.negative n.mantissa n.scale)

/-- The parts are made of digits, and only zero itself begins with zero. -/
structure Proper (n : Numeral) : Prop where
  whole : ∀ c ∈ n.whole, Text.isAsciiDigit c = true
  lead : n.whole = ['0'] ∨ ∃ c rest, n.whole = c :: rest ∧ c ≠ '0'
  fraction : ∀ c ∈ n.fraction, Text.isAsciiDigit c = true
  exponent : ∀ e, n.exponent = some e → e.2 ≠ [] ∧ ∀ c ∈ e.2, Text.isAsciiDigit c = true

/-- Whether an integer has too many digits to be read. -/
def isLong (n : Numeral) : Bool :=
  n.fraction.isEmpty && n.exponent.isNone && decide (n.whole.length > Text.digitLimit)

variable {n : Numeral} {rest : List Char}

theorem takeFraction_text (hn : n.Proper) (hrest : EndsDigits rest)
    (hpoint : rest.head? ≠ some '.') :
    takeFraction (n.fractionText ++ rest) = (n.fraction, rest) := by
  unfold fractionText
  split
  · rename_i hnone
    rw [List.nil_append, hnone]
    unfold takeFraction
    split
    · exact absurd rfl hpoint
    · rfl
  · rename_i hsome
    have hdigits := takeWhile_digits hn.fraction hrest
    simp only [takeFraction, List.cons_append, hdigits, List.isEmpty_iff, hsome, if_false,
      List.drop_left]

theorem takeExponent_text (hn : n.Proper) (hrest : EndsNumber rest) :
    takeExponent (n.exponentText ++ rest) = (n.power, rest) := by
  unfold exponentText power
  cases hexponent : n.exponent with
  | none =>
    cases rest with
    | nil => rfl
    | cons c rest =>
      obtain ⟨-, -, he, hE⟩ := hrest c rfl
      simp [takeExponent, he, hE]
  | some e =>
    obtain ⟨hsome, hdigits⟩ := hn.exponent e hexponent
    have hdigits := takeWhile_digits hdigits fun c hc => (hrest c hc).1
    cases hsign : e.1 <;> simp [takeExponent, Decimal.takeSign, hsign, hdigits, hsome]

theorem endsDigits_exponentText (n : Numeral) (hrest : EndsNumber rest) :
    EndsDigits (n.exponentText ++ rest) ∧ (n.exponentText ++ rest).head? ≠ some '.' := by
  unfold exponentText
  cases n.exponent with
  | none => exact ⟨fun c hc => (hrest c hc).1, fun hc => (hrest '.' hc).2.1 rfl⟩
  | some e =>
    refine ⟨fun c hc => ?_, by simp⟩
    obtain rfl : 'e' = c := by simpa using hc
    rfl

theorem endsDigits_fractionText (n : Numeral) (hrest : EndsNumber rest) :
    EndsDigits (n.fractionText ++ (n.exponentText ++ rest)) := by
  unfold fractionText
  split
  · exact (endsDigits_exponentText n hrest).1
  · intro c hc
    obtain rfl : '.' = c := by simpa using hc
    rfl

theorem Proper.exists_whole (hn : n.Proper) :
    ∃ c more, n.whole = c :: more ∧ Text.isAsciiDigit c = true := by
  obtain ⟨c, more, hwhole⟩ : ∃ c more, n.whole = c :: more := by
    rcases hn.lead with hwhole | ⟨c, more, hwhole, -⟩
    · exact ⟨_, _, hwhole⟩
    · exact ⟨c, more, hwhole⟩
  exact ⟨c, more, hwhole, hn.whole c (hwhole ▸ List.mem_cons_self)⟩

theorem ne_of_isAsciiDigit {c other : Char} (hc : Text.isAsciiDigit c = true)
    (hother : Text.isAsciiDigit other = false) : c ≠ other := by
  rintro rfl
  rw [hc] at hother
  cases hother

/-- What reading a numeral gives: its value, unless it is too long. -/
def outcome (n : Numeral) (behind : Cursor) : Except Refusal (Value × Cursor) :=
  if n.isLong then .error (.longNumeral n.whole.length) else .ok (n.value, behind)

/-- A numeral is read whole, up to something that does not belong to a number. -/
theorem Proper.readNumber_text (hn : n.Proper) (hrest : EndsNumber rest) (p : Nat) :
    readNumber ⟨p, n.text ++ rest⟩ = n.outcome ⟨p + n.text.length, rest⟩ := by
  obtain ⟨hends, hpoint⟩ := endsDigits_exponentText n hrest
  have hdigits := takeWhile_digits hn.whole (endsDigits_fractionText n hrest)
  have hfraction := takeFraction_text hn hends hpoint
  have hexponent := takeExponent_text hn hrest
  have hnone : n.power = none ↔ n.exponent = none := Option.map_eq_none_iff
  have hlength : (n.text ++ rest).length - rest.length = n.text.length := by
    rw [List.length_append, Nat.add_sub_cancel]
  have htext : n.text ++ rest = (if n.negative then ['-'] else []) ++
      (n.whole ++ (n.fractionText ++ (n.exponentText ++ rest))) := by
    simp only [text, List.append_assoc]
  unfold readNumber outcome isLong value mantissa scale
  rw [← hlength, htext]
  -- a zero ends the whole part at once, other digits are taken as far as they go
  rcases hn.lead with hwhole | ⟨c, more, hwhole, hc⟩
  · rw [hwhole]
    by_cases hform : n.fraction = [] ∧ n.exponent = none <;> cases n.negative <;>
      simp [hform, hfraction, hexponent, hnone, pure, Except.pure, throw, throwThe,
        MonadExceptOf.throw]
  · have hminus : c ≠ '-' := ne_of_isAsciiDigit (hn.whole c (hwhole ▸ List.mem_cons_self)) rfl
    rw [hwhole, List.cons_append] at hdigits
    rw [hwhole]
    by_cases hform : n.fraction = [] ∧ n.exponent = none <;> cases n.negative <;>
      simp [hform, hminus, hc, hdigits, hfraction, hexponent, hnone, pure, Except.pure, throw,
        throwThe, MonadExceptOf.throw]

/-- A numeral is read as a value: nothing else begins with a digit, or with a minus and a digit. -/
theorem Proper.readValue_text (hn : n.Proper) (hrest : EndsNumber rest) (fuel p : Nat) :
    readValue (fuel + 1) ⟨p, n.text ++ rest⟩ = n.outcome ⟨p + n.text.length, rest⟩ := by
  rw [← hn.readNumber_text hrest p]
  obtain ⟨c, more, hwhole, hc⟩ := hn.exists_whole
  have hne : ∀ other, Text.isAsciiDigit other = false → c ≠ other := fun _ => ne_of_isAsciiDigit hc
  unfold Numeral.text
  rw [hwhole]
  cases n.negative with
  | false =>
    simp [readValue, readWord?, Cursor.word?, Text.after?, hne '"' rfl, hne '{' rfl, hne '[' rfl,
      (hne 'n' rfl).symm, (hne 't' rfl).symm, (hne 'f' rfl).symm, (hne 'N' rfl).symm,
        (hne 'I' rfl).symm,
      (hne '-' rfl).symm]
  | true => simp [readValue, readWord?, Cursor.word?, Text.after?, (hne 'I' rfl).symm]

end Numeral

/-! ## Written numbers -/

theorem isAsciiDigit_of_mem_zeros {c : Char} {count : Nat} (h : c ∈ List.replicate count '0') :
    Text.isAsciiDigit c = true := by
  rw [List.eq_of_mem_replicate h]
  rfl

theorem digitsValue_paddedDigits (width n : Nat) :
    Text.digitsValue (Text.paddedDigits width n) = n := by
  unfold Text.paddedDigits
  rw [Text.digitsValue_append, Text.digitsValue_zeros, Text.digitsValue_decimalDigits, Nat.zero_mul,
    Nat.zero_add]

/-- A numeral is that of a double, and stands for a number before it is rounded. -/
structure Numeral.Denotes (n : Numeral) (q : ℚ) : Prop where
  proper : n.Proper
  isFloat : ¬ (n.fraction = [] ∧ n.exponent = none)
  eq : (n.mantissa * 10 ^ n.scale : ℚ) = q

theorem Numeral.Denotes.isLong_eq_false {n : Numeral} {q : ℚ} (h : n.Denotes q) :
    n.isLong = false := by
  simpa [Numeral.isLong] using fun hfraction hexponent => absurd ⟨hfraction, hexponent⟩ h.isFloat

section Decimals

variable {d : Decimal.Digits} (hd : d.Proper)
include hd

/-- A decimal below one is written with zeros behind the point. -/
theorem denotes_small (hpoint : d.point ≤ 0) (negative : Bool) :
    Numeral.Denotes ⟨negative, ['0'], List.replicate (-d.point).toNat '0' ++ d.digits,
      none⟩ d.value := by
  obtain ⟨c, rest, hdigits, -⟩ := hd.lead
  refine ⟨⟨by simp [Text.isAsciiDigit], .inl rfl, fun c hc => ?_, fun e he =>
    (by cases he)⟩, ?_, ?_⟩
  · rcases List.mem_append.mp hc with hc | hc
    · exact isAsciiDigit_of_mem_zeros hc
    · exact hd.areDigits c hc
  · simp [hdigits]
  · have hzeros : ((-d.point).toNat : Int) = -d.point := Int.toNat_of_nonneg (by omega)
    have hscale : Numeral.scale ⟨negative, ['0'],
        List.replicate (-d.point).toNat '0' ++ d.digits, none⟩ = d.point - d.digits.length := by
      simp [Numeral.scale, Numeral.power, hzeros]
      omega
    rw [hscale]
    simp only [Numeral.mantissa, Decimal.Digits.value, Text.digitsValue_append,
      Text.digitsValue_zeros]
    simp [Text.digitsValue, Text.digitValue?]

/-- A decimal from one on is written with its digits around the point. -/
theorem denotes_large (hpoint : 0 < d.point) (negative : Bool) :
    Numeral.Denotes ⟨negative,
      d.digits.take d.point.toNat ++ List.replicate (d.point.toNat - d.digits.length) '0',
      if (d.digits.drop d.point.toNat).isEmpty then ['0'] else d.digits.drop d.point.toNat, none⟩
      d.value := by
  obtain ⟨c, rest, hdigits, hc⟩ := hd.lead
  obtain ⟨k, hk⟩ : ∃ k : Nat, d.point = k + 1 := ⟨(d.point - 1).toNat, by omega⟩
  have hwhole : d.point.toNat = k + 1 := by omega
  rw [hwhole]
  refine ⟨⟨fun c hc => ?_, .inr ⟨c, _, by rw [hdigits, List.take_succ_cons, List.cons_append], hc⟩,
    fun c hc => ?_, fun e he => (by cases he)⟩, fun h => ?_, ?_⟩
  · rcases List.mem_append.mp hc with hc | hc
    · exact hd.areDigits c (List.mem_of_mem_take hc)
    · exact isAsciiDigit_of_mem_zeros hc
  · dsimp only at hc
    split at hc
    · rw [List.mem_singleton.mp hc]
      rfl
    · exact hd.areDigits c (List.mem_of_mem_drop hc)
  · have hfraction := h.1
    dsimp only at hfraction
    split at hfraction
    · cases hfraction
    · rename_i hsome
      rw [hfraction] at hsome
      exact hsome rfl
  · simp only [Numeral.mantissa, Numeral.scale, Numeral.power, Decimal.Digits.value, hk,
      List.isEmpty_iff, List.drop_eq_nil_iff, Option.map_none, Option.getD_none]
    by_cases hshort : d.digits.length ≤ k + 1
    · -- the digits end before the point: zeros fill the gap, and one more stands behind the point
      obtain ⟨zeros, hzeros⟩ := Nat.exists_eq_add_of_le hshort
      have hmore : List.replicate (k + 1 - d.digits.length) '0' ++ ['0'] =
          List.replicate (zeros + 1) '0' := by
        rw [hzeros, Nat.add_sub_cancel_left, List.replicate_succ']
      rw [if_pos hshort, List.take_of_length_le hshort, List.append_assoc, hmore,
        Text.digitsValue_append,
        Text.digitsValue_zeros, List.length_replicate, Nat.add_zero, Nat.cast_mul, mul_assoc,
          Nat.cast_pow,
        ← zpow_natCast, Nat.cast_ofNat, ← zpow_add₀ (by norm_num)]
      congr 2
      simp only [List.length_singleton]
      omega
    · rw [if_neg hshort, Nat.sub_eq_zero_of_le (by omega), List.replicate_zero, List.append_nil,
        List.take_append_drop, List.length_drop]
      congr 2
      omega

/-- Any other decimal is written with its first digit before the point, and an exponent. -/
theorem denotes_scientific {c : Char} {rest : List Char} (hdigits : d.digits = c :: rest)
    (negative : Bool) :
    Numeral.Denotes ⟨negative, [c], rest,
      some (d.point - 1 < 0, Text.paddedDigits 2 (d.point - 1).natAbs)⟩ d.value := by
  obtain ⟨c', rest', hdigits', hc⟩ := hd.lead
  obtain ⟨rfl, rfl⟩ := List.cons.inj (hdigits.symm.trans hdigits')
  have hareDigits := hd.areDigits
  rw [hdigits] at hareDigits
  refine ⟨⟨fun digit hdigit => ?_, .inr ⟨c, [], rfl, hc⟩, fun digit hdigit => ?_, ?_⟩,
    fun h => (by cases h.2), ?_⟩
  · exact hareDigits digit (List.mem_singleton.mp hdigit ▸ List.mem_cons_self)
  · exact hareDigits digit (List.mem_cons_of_mem c hdigit)
  · rintro e ⟨⟩
    refine ⟨?_, fun digit hdigit => ?_⟩
    · exact List.append_ne_nil_of_right_ne_nil _ (List.ne_nil_of_length_pos Nat.length_toDigits_pos)
    · rcases List.mem_append.mp hdigit with hdigit | hdigit
      · exact isAsciiDigit_of_mem_zeros hdigit
      · exact Text.isAsciiDigit_of_mem_decimalDigits hdigit
  · have hscale : Numeral.scale ⟨negative, [c], rest,
        some (d.point - 1 < 0, Text.paddedDigits 2 (d.point - 1).natAbs)⟩ =
        d.point - d.digits.length := by
      simp only [Numeral.scale, Numeral.power, Option.map_some, Option.getD_some,
        digitsValue_paddedDigits, decide_eq_true_iff, hdigits, List.length_cons]
      split
      · rename_i hnegative
        rw [Int.ofNat_natAbs_of_nonpos hnegative.le, neg_neg]
        omega
      · rename_i hpositive
        rw [Int.natAbs_of_nonneg (by omega)]
        omega
    rw [hscale]
    simp only [Numeral.mantissa, Decimal.Digits.value, hdigits, List.singleton_append]

/-- A decimal is written as a numeral that stands for its value. -/
theorem exists_numeral (negative : Bool) :
    ∃ n : Numeral, n.Denotes d.value ∧ n.negative = negative ∧
      n.text = (if negative then ['-'] else []) ++ d.text := by
  unfold Decimal.Digits.text
  dsimp only
  by_cases hform : -4 ≤ d.point - 1 ∧ d.point - 1 < 16
  · rw [if_pos hform]
    by_cases hpoint : d.point ≤ 0
    · obtain ⟨c, rest, hdigits, -⟩ := hd.lead
      refine ⟨_, denotes_small hd hpoint negative, rfl, ?_⟩
      simp [Numeral.text, Numeral.fractionText, Numeral.exponentText, hdigits, hpoint]
    · have hdenotes := denotes_large hd (by omega) negative
      have hsome : (if (d.digits.drop d.point.toNat).isEmpty then ['0']
          else d.digits.drop d.point.toNat) ≠ [] := fun h => hdenotes.isFloat ⟨h, rfl⟩
      refine ⟨_, hdenotes, rfl, ?_⟩
      rw [if_neg hpoint, Numeral.text, Numeral.fractionText, if_neg hsome, Numeral.exponentText]
      simp
  · obtain ⟨c, rest, hdigits, -⟩ := hd.lead
    refine ⟨_, denotes_scientific hd hdigits negative, rfl, ?_⟩
    rw [if_neg hform, hdigits]
    cases rest <;> simp [Numeral.text, Numeral.fractionText, Numeral.exponentText]

end Decimals

/-- A double that is a number is written as a numeral that stands for it. -/
theorem exists_numeral_floatText {x : Float} {negative : Bool} {mantissa : Nat} {exponent : Int}
    (hx : Decimal.Binary.ofFloat x = .finite negative mantissa exponent) :
    ∃ n : Numeral, n.Proper ∧ n.text = Decimal.floatText x ∧ n.value = .float x ∧
      n.isLong = false := by
  have htext : Decimal.floatText x = (if negative then ['-'] else []) ++
      (if mantissa = 0 then "0.0".toList else (Decimal.shortestDigits mantissa exponent).text) := by
    rw [Decimal.floatText, hx]
    cases negative <;> rfl
  rw [htext]
  rcases Nat.eq_zero_or_pos mantissa with rfl | hpos
  · refine ⟨⟨negative, ['0'], ['0'], none⟩, ⟨?_, .inl rfl, ?_, ?_⟩, rfl, ?_, rfl⟩
    · simp [Text.isAsciiDigit]
    · simp [Text.isAsciiDigit]
    · simp
    · rw [← Decimal.nearest_zero hx]
      rfl
  · have hnormal := Decimal.Binary.normal_ofFloat x
    rw [hx] at hnormal
    obtain ⟨hproper, hrounds⟩ :=
      Decimal.shortestDigits_spec hnormal hpos (Decimal.Binary.toBits_of_finite hx).1
    obtain ⟨n, hn, rfl, htext⟩ := exists_numeral hproper negative
    refine ⟨n, hn.proper, ?_, ?_, hn.isLong_eq_false⟩
    · rw [if_neg hpos.ne', htext]
    · rw [Numeral.value, if_neg hn.isFloat, Decimal.ofDecimal_eq hx hpos (hn.eq ▸ hrounds)]

/-- An integer is written as a numeral that stands for it. -/
theorem exists_numeral_integerText (i : Int) :
    ∃ n : Numeral, n.Proper ∧ n.text = Text.integerText i ∧ n.value = .int i ∧
      n.isLong = Text.isLong i := by
  refine ⟨⟨decide (i < 0), Text.decimalDigits i.natAbs, [], none⟩, ⟨?_, ?_, ?_, ?_⟩, ?_, ?_, rfl⟩
  · exact fun c hc => Text.isAsciiDigit_of_mem_decimalDigits hc
  · rcases Nat.eq_zero_or_pos i.natAbs with hzero | hpos
    · exact .inl (by rw [hzero]; rfl)
    · exact .inr (Text.exists_decimalDigits hpos)
  · simp
  · simp
  · rw [Text.integerText]
    split <;> simp [Numeral.text, Numeral.fractionText, Numeral.exponentText, *]
  · rw [Numeral.value, if_pos ⟨rfl, rfl⟩, Text.digitsValue_decimalDigits]
    by_cases hi : i < 0
    · simp [hi, Int.ofNat_natAbs_of_nonpos hi.le]
    · simp [hi, Int.natAbs_of_nonneg (Int.not_lt.mp hi)]

/-! ## Words -/

/-- The words that stand for values. -/
def words : List (String × Value) :=
  [("null", .null), ("true", .bool true), ("false", .bool false), ("NaN", .float (0 / 0)),
    ("Infinity", .float (1 / 0)), ("-Infinity", .float (-1 / 0))]

theorem readValue_word {word : String} {v : Value} (h : (word, v) ∈ words) (fuel p : Nat)
    (rest : List Char) :
    readValue (fuel + 1) ⟨p, word.toList ++ rest⟩ = .ok (v, ⟨p + word.toList.length, rest⟩) := by
  rw [String.length_toList]
  simp only [words, List.mem_cons, Prod.mk.injEq, List.not_mem_nil, or_false] at h
  rcases h with ⟨rfl, rfl⟩ | ⟨rfl, rfl⟩ | ⟨rfl, rfl⟩ | ⟨rfl, rfl⟩ | ⟨rfl, rfl⟩ | ⟨rfl, rfl⟩ <;>
    simp [readValue, readWord?, Cursor.word?, Text.after?, pure, Except.pure]

/-! ## Escapes -/

theorem hexValue?_digitChar {n : Nat} (h : n < 16) : hexValue? (Nat.digitChar n) = some n := by
  revert n
  decide

/-- The four digits of a code unit. -/
theorem hexDigits_four {n : Nat} (h : n < 0x10000) :
    Text.hexDigits 4 n = [Nat.digitChar (n / 0x1000), Nat.digitChar (n / 0x100 % 16),
      Nat.digitChar (n / 0x10 % 16), Nat.digitChar (n % 16)] := by
  have hstep : ∀ k, Nat.toDigits 16 k =
      if k < 16 then [Nat.digitChar k] else Nat.toDigits 16 (k / 16) ++ [Nat.digitChar (k % 16)] :=
    fun k => Nat.toDigits_eq_if (by decide)
  have hzero : Nat.digitChar 0 = '0' := rfl
  unfold Text.hexDigits
  -- as many digits as the number needs, and zeros before them
  by_cases hone : n < 0x10
  · rw [hstep, if_pos hone]
    simp [List.replicate, Nat.div_eq_of_lt (show n < 0x1000 by omega),
      Nat.div_eq_of_lt (show n < 0x100 by omega), Nat.div_eq_of_lt hone, Nat.mod_eq_of_lt hone]
  by_cases htwo : n < 0x100
  · rw [hstep, if_neg hone, hstep, if_pos (by omega)]
    simp [List.replicate, Nat.div_eq_of_lt (show n < 0x1000 by omega), Nat.div_eq_of_lt htwo,
      Nat.mod_eq_of_lt (show n / 16 < 16 by omega)]
  by_cases hthree : n < 0x1000
  · rw [hstep, if_neg hone, hstep, if_neg (by omega), hstep, if_pos (by omega)]
    simp [Nat.div_div_eq_div_mul, Nat.div_eq_of_lt hthree,
      Nat.mod_eq_of_lt (show n / 256 < 16 by omega)]
  · rw [hstep, if_neg hone, hstep, if_neg (by omega), hstep, if_neg (by omega), hstep,
      if_pos (by omega)]
    simp [Nat.div_div_eq_div_mul]

theorem fourHex?_hexDigits {n : Nat} (h : n < 0x10000) (rest : List Char) :
    fourHex? (Text.hexDigits 4 n ++ rest) = some n := by
  rw [hexDigits_four h]
  simp [fourHex?, hexValue?_digitChar (show n / 4096 < 16 by omega),
    hexValue?_digitChar (Nat.mod_lt _ (by decide : 16 > 0))]
  omega

theorem length_hexDigits {n : Nat} (h : n < 0x10000) : (Text.hexDigits 4 n).length = 4 := by
  rw [hexDigits_four h]
  rfl

theorem length_unitEscape {n : Nat} (h : n < 0x10000) : (unitEscape n).length = 6 := by
  rw [unitEscape, List.length_cons, List.length_cons, length_hexDigits h]

section CodeEscapes

variable {c : Char} {rest : List Char}

/-- A character of one code unit is read back from its escape. -/
theorem readCodeEscape_unit (hc : c.toNat < 0x10000) (hrest : rest ≠ []) (p : Nat) :
    readCodeEscape ⟨p, Text.hexDigits 4 c.toNat ++ rest⟩ = .ok (c, ⟨p + 4, rest⟩) := by
  have hvalid : c.toNat < 0xD800 ∨ (0xDFFF < c.toNat ∧ c.toNat < 0x110000) := c.valid
  have hhigh : isHighSurrogate c.toNat = false := by
    simp only [isHighSurrogate, Bool.and_eq_false_iff, decide_eq_false_iff_not]
    omega
  have hlow : isLowSurrogate c.toNat = false := by
    simp only [isLowSurrogate, Bool.and_eq_false_iff, decide_eq_false_iff_not]
    omega
  have hchar : readCodeEscape.charOf c.toNat = c := by
    rw [readCodeEscape.charOf, hhigh, hlow]
    exact Char.ofNat_toNat c
  have hlong : ¬ (Text.hexDigits 4 c.toNat ++ rest).length ≤ 4 := by
    have hpos := List.length_pos_iff.mpr hrest
    rw [List.length_append, length_hexDigits hc]
    omega
  unfold readCodeEscape
  simp only [hlong, if_false, fourHex?_hexDigits hc, Cursor.advance,
    List.drop_left' (length_hexDigits hc), hchar, hhigh, Bool.false_and]
  -- what follows may look like a second unit, but the first one is no half of a pair
  split
  · split
    · rename_i h
      cases h
    · rfl
  · rfl

/-- A character of two code units is read back from their escapes. -/
theorem readCodeEscape_pair (hc : ¬ c.toNat < 0x10000) (hrest : rest ≠ []) (p : Nat) :
    readCodeEscape ⟨p, Text.hexDigits 4 (0xD800 + (c.toNat - 0x10000) / 0x400) ++
        (unitEscape (0xDC00 + (c.toNat - 0x10000) % 0x400) ++ rest)⟩ = .ok (c, ⟨p + 10, rest⟩) := by
  have hvalid : c.toNat < 0xD800 ∨ (0xDFFF < c.toNat ∧ c.toNat < 0x110000) := c.valid
  obtain ⟨n, hn⟩ := Nat.exists_eq_add_of_le (Nat.not_lt.mp hc)
  rw [hn, Nat.add_sub_cancel_left]
  have hhigh : 0xD800 + n / 0x400 < 0x10000 := by omega
  have hlow : 0xDC00 + n % 0x400 < 0x10000 := by omega
  have hfirst : isHighSurrogate (0xD800 + n / 0x400) = true := by
    simp only [isHighSurrogate, Bool.and_eq_true, decide_eq_true_iff]
    omega
  have hsecond : isLowSurrogate (0xDC00 + n % 0x400) = true := by
    simp only [isLowSurrogate, Bool.and_eq_true, decide_eq_true_iff]
    omega
  have hchar : Char.ofNat
      (0x10000 + (0xD800 + n / 0x400 - 0xD800) * 0x400 + (0xDC00 + n % 0x400 - 0xDC00)) = c := by
    have hcode : 0x10000 + (0xD800 + n / 0x400 - 0xD800) * 0x400 + (0xDC00 + n % 0x400 - 0xDC00) =
        c.toNat := by omega
    rw [hcode, Char.ofNat_toNat]
  have hpos := List.length_pos_iff.mpr hrest
  have hbehind : (Text.hexDigits 4 (0xDC00 + n % 0x400) ++ rest).length > 4 := by
    rw [List.length_append, length_hexDigits hlow]
    omega
  have hlong : ¬ (Text.hexDigits 4 (0xD800 + n / 0x400) ++
      ('\\' :: 'u' :: (Text.hexDigits 4 (0xDC00 + n % 0x400) ++ rest))).length ≤ 4 := by
    rw [List.length_append, length_hexDigits hhigh, List.length_cons]
    omega
  unfold readCodeEscape
  simp only [unitEscape, List.cons_append, hlong, if_false, fourHex?_hexDigits hhigh,
    Cursor.advance,
    List.drop_left' (length_hexDigits hhigh), hfirst, hbehind, decide_true, Bool.and_self, if_true,
    fourHex?_hexDigits hlow, hsecond, hchar]
  simp [List.drop_left' (length_hexDigits hlow), pure, Except.pure]

end CodeEscapes

/-! ## Texts -/

/-- The forms that a character has between quotes. -/
inductive WrittenAs (c : Char) : List Char → Prop where
  | letter {letter : Char} (h : escaped? letter = some c) (hletter : letter ≠ 'u') :
    WrittenAs c ['\\', letter]
  | plain (hquote : c ≠ '"') (hbackslash : c ≠ '\\') (h : 0x20 ≤ c.toNat ∧ c.toNat < 0x7F) :
    WrittenAs c [c]
  | unit (hshort : c.toNat < 0x10000) : WrittenAs c (unitEscape c.toNat)
  | pair (hlong : ¬ c.toNat < 0x10000) :
    WrittenAs c (unitEscape (0xD800 + (c.toNat - 0x10000) / 0x400) ++
      unitEscape (0xDC00 + (c.toNat - 0x10000) % 0x400))

theorem writtenAs_writtenChar (c : Char) : WrittenAs c (writtenChar c) := by
  fun_cases writtenChar c with
  | case8 hquote hbackslash _ _ _ _ _ h => exact .plain hquote hbackslash h
  | case9 _ _ _ _ _ _ _ _ hshort => exact .unit hshort
  | case10 _ _ _ _ _ _ _ _ hlong => exact .pair hlong
  | _ =>
    subst c
    exact .letter rfl (by decide)

theorem unitEscape_ne_nil (unit : Nat) : unitEscape unit ≠ [] :=
  List.cons_ne_nil _ _

theorem WrittenAs.ne_nil {c : Char} {text : List Char} (h : WrittenAs c text) : text ≠ [] := by
  cases h with
  | letter => exact List.cons_ne_nil _ _
  | plain => exact List.cons_ne_nil _ _
  | unit => exact unitEscape_ne_nil _
  | pair => exact List.append_ne_nil_of_left_ne_nil (unitEscape_ne_nil _) _

section Texts

variable {c : Char} {rest : List Char} {start fuel p : Nat}

theorem readText_plain (hquote : c ≠ '"') (hbackslash : c ≠ '\\') (hspace : 0x20 ≤ c.toNat) :
    readText start (fuel + 1) ⟨p, c :: rest⟩ = (do
      let found ← readText start fuel ⟨p + 1, rest⟩
      return (c :: found.1, found.2)) := by
  rw [readText]
  split
  · rename_i h
    cases h
  · rename_i h
    exact absurd (List.cons.inj h).1 hquote
  · rename_i h
    exact absurd (List.cons.inj h).1 hbackslash
  · rename_i h
    obtain ⟨rfl, rfl⟩ := List.cons.inj h
    rw [if_neg (Nat.not_lt.mpr hspace)]

theorem readText_letter {letter : Char} (hletter : letter ≠ 'u') (h : escaped? letter = some c) :
    readText start (fuel + 1) ⟨p, '\\' :: letter :: rest⟩ = (do
      let found ← readText start fuel ⟨p + 2, rest⟩
      return (c :: found.1, found.2)) := by
  simp only [readText, h]

theorem readText_code {digits : List Char} {behind : Cursor}
    (h : readCodeEscape ⟨p + 2, digits⟩ = .ok (c, behind)) :
    readText start (fuel + 1) ⟨p, '\\' :: 'u' :: digits⟩ = (do
      let found ← readText start fuel behind
      return (c :: found.1, found.2)) := by
  simp only [readText, h]
  rfl

/-- A character is read back from its written form inside a text that goes on. -/
theorem WrittenAs.readText_eq {text : List Char} (h : WrittenAs c text) (hrest : rest ≠ []) :
    readText start (fuel + 1) ⟨p, text ++ rest⟩ = (do
      let found ← readText start fuel ⟨p + text.length, rest⟩
      return (c :: found.1, found.2)) := by
  have hvalid : c.toNat < 0xD800 ∨ (0xDFFF < c.toNat ∧ c.toNat < 0x110000) := c.valid
  cases h with
  | letter h hletter => exact readText_letter hletter h
  | plain hquote hbackslash h => exact readText_plain hquote hbackslash h.1
  | unit hshort =>
    rw [length_unitEscape hshort]
    exact readText_code (readCodeEscape_unit hshort hrest _)
  | pair hlong =>
    rw [List.append_assoc, List.length_append, length_unitEscape (by omega),
      length_unitEscape (by omega),
      unitEscape, List.cons_append, List.cons_append,
        readText_code (readCodeEscape_pair hlong hrest _),
      Nat.add_assoc]

/-- The characters of a text are read back up to the closing quote. -/
theorem readText_flatMap (text rest : List Char) (hfuel : text.length < fuel) (start p : Nat) :
    readText start fuel ⟨p, text.flatMap writtenChar ++ '"' :: rest⟩ =
      .ok (text, ⟨p + (text.flatMap writtenChar).length + 1, rest⟩) := by
  induction text generalizing fuel p with
  | nil =>
    obtain ⟨fuel, rfl⟩ : ∃ k, fuel = k + 1 := ⟨fuel - 1, by omega⟩
    rfl
  | cons c text ih =>
    obtain ⟨fuel, rfl⟩ : ∃ k, fuel = k + 1 := ⟨fuel - 1, by omega⟩
    rw [List.flatMap_cons, List.append_assoc, (writtenAs_writtenChar c).readText_eq (by simp),
      ih (Nat.lt_of_succ_lt_succ hfuel), List.length_append, Nat.add_assoc p]
    rfl

end Texts

/-- A text between quotes is read back. -/
theorem readText_quoted (text rest : List Char) (p : Nat) :
    ∃ behind, writtenText text ++ rest = '"' :: behind ∧
      readText p (behind.length + 1) ⟨p + 1, behind⟩ =
        .ok (text, ⟨p + (writtenText text).length, rest⟩) := by
  refine ⟨text.flatMap writtenChar ++ '"' :: rest, by simp [writtenText], ?_⟩
  have hlength : text.length ≤ (text.flatMap writtenChar).length := by
    induction text with
    | nil => exact Nat.le_refl 0
    | cons c text ih =>
      have hc := List.length_pos_iff.mpr (writtenAs_writtenChar c).ne_nil
      rw [List.flatMap_cons, List.length_append, List.length_cons]
      omega
  have hposition : p + 1 + (text.flatMap writtenChar).length + 1 =
      p + (writtenText text).length := by
    simp only [writtenText, List.length_append, List.length_cons, List.length_nil]
    omega
  rw [readText_flatMap text rest (by rw [List.length_append]; omega), hposition]

/-! ## Scalars -/

/-- What is written for a scalar: a word, a numeral, or a text between quotes. -/
inductive ScalarText : Value → List Char → Prop where
  | word {word : String} {v : Value} (h : (word, v) ∈ words) : ScalarText v word.toList
  | numeral {n : Numeral} (hn : n.Proper) (hlong : n.isLong = !n.value.isShowable) :
    ScalarText n.value n.text
  | quoted (s : String) : ScalarText (.text s) (writtenText s.toList)

theorem scalarText_bool (b : Bool) :
    ScalarText (.bool b) (if b then "true".toList else "false".toList) := by
  cases b with
  | true =>
    show ScalarText (.bool true) "true".toList
    exact .word (by simp [words])
  | false =>
    show ScalarText (.bool false) "false".toList
    exact .word (by simp [words])

/-- An integer is written so however long it is, but is read back only within the limit. -/
theorem scalarText_integerText (i : Int) : ScalarText (.int i) (Text.integerText i) := by
  obtain ⟨n, hn, htext, hvalue, hlong⟩ := exists_numeral_integerText i
  rw [← hvalue, ← htext]
  refine .numeral hn ?_
  rw [hlong, hvalue, Value.isShowable, Bool.not_not]

theorem scalarText_writtenFloat (x : Float) : ScalarText (.float x) (writtenFloat x) := by
  rw [writtenFloat]
  cases hx : Decimal.Binary.ofFloat x with
  | notANumber =>
    rw [Decimal.Binary.eq_of_notANumber hx]
    exact .word (by simp [words])
  | infinite negative =>
    rw [Decimal.Binary.eq_of_infinite hx]
    cases negative with
    | true =>
      show ScalarText (.float (-1 / 0)) "-Infinity".toList
      exact .word (by simp [words])
    | false =>
      show ScalarText (.float (1 / 0)) "Infinity".toList
      exact .word (by simp [words])
  | finite negative mantissa exponent =>
    obtain ⟨n, hn, htext, hvalue, hlong⟩ := exists_numeral_floatText hx
    show ScalarText (.float x) (Decimal.floatText x)
    rw [← hvalue, ← htext]
    refine .numeral hn ?_
    rw [hlong, hvalue]
    rfl

/-! ## Plain characters -/

/-- A printed character other than a semicolon. -/
def IsPlain (c : Char) : Prop := 0x20 ≤ c.toNat ∧ c.toNat < 0x7F ∧ c ≠ ';'

instance (c : Char) : Decidable (IsPlain c) := inferInstanceAs (Decidable (_ ∧ _))

section Plain

variable {c : Char} {text : List Char}

theorem isPlain_of_isAsciiDigit (h : Text.isAsciiDigit c = true) : IsPlain c := by
  simp only [Text.isAsciiDigit, Bool.and_eq_true, decide_eq_true_iff] at h
  have hlow : 48 ≤ c.toNat := h.1
  have hhigh : c.toNat ≤ 57 := h.2
  refine ⟨by omega, by omega, ?_⟩
  rintro rfl
  revert hhigh
  decide

theorem isPlain_digitChar {k : Nat} (h : k < 16) : IsPlain (Nat.digitChar k) := by
  revert k
  decide

theorem isPlain_unitEscape {n : Nat} (hn : n < 0x10000) (h : c ∈ unitEscape n) : IsPlain c := by
  rw [unitEscape, hexDigits_four hn] at h
  simp only [List.mem_cons, List.not_mem_nil, or_false] at h
  rcases h with rfl | rfl | rfl | rfl | rfl | rfl
  · decide
  · decide
  · exact isPlain_digitChar (by omega)
  · exact isPlain_digitChar (Nat.mod_lt _ (by decide))
  · exact isPlain_digitChar (Nat.mod_lt _ (by decide))
  · exact isPlain_digitChar (Nat.mod_lt _ (by decide))

theorem isPlain_of_escaped? {letter : Char} (h : escaped? letter = some c) : IsPlain letter := by
  unfold escaped? at h
  split at h <;> cases h <;> decide

/-- A semicolon is written as itself, and everything else without one. -/
theorem WrittenAs.isPlain {d : Char} (h : WrittenAs c text) (hd : d ∈ text) :
    IsPlain d ∨ d = ';' ∧ c = ';' := by
  have hvalid : c.toNat < 0xD800 ∨ (0xDFFF < c.toNat ∧ c.toNat < 0x110000) := c.valid
  cases h with
  | letter h hletter =>
    refine .inl ?_
    simp only [List.mem_cons, List.not_mem_nil, or_false] at hd
    rcases hd with rfl | rfl
    · decide
    · exact isPlain_of_escaped? h
  | plain hquote hbackslash h =>
    obtain rfl := List.mem_singleton.mp hd
    by_cases hsemicolon : d = ';'
    · exact .inr ⟨hsemicolon, hsemicolon⟩
    · exact .inl ⟨h.1, h.2, hsemicolon⟩
  | unit hshort => exact .inl (isPlain_unitEscape hshort hd)
  | pair hlong =>
    rcases List.mem_append.mp hd with hd | hd
    · exact .inl (isPlain_unitEscape (by omega) hd)
    · exact .inl (isPlain_unitEscape (by omega) hd)

theorem isPlain_writtenText (h : c ∈ writtenText text) : IsPlain c ∨ c = ';' ∧ ';' ∈ text := by
  simp only [writtenText, List.cons_append, List.mem_cons, List.mem_append, List.mem_flatMap,
    List.not_mem_nil, or_false] at h
  rcases h with rfl | ⟨d, hd, hc⟩ | rfl
  · exact .inl (by decide)
  · rcases (writtenAs_writtenChar d).isPlain hc with hc | ⟨rfl, rfl⟩
    · exact .inl hc
    · exact .inr ⟨rfl, hd⟩
  · exact .inl (by decide)

theorem semicolon_mem_writtenText (h : ';' ∈ text) : ';' ∈ writtenText text := by
  have hmem : ';' ∈ text.flatMap writtenChar := List.mem_flatMap.mpr ⟨';', h, by decide⟩
  simp [writtenText, hmem]

theorem Numeral.Proper.isPlain {n : Numeral} (hn : n.Proper) (h : c ∈ n.text) : IsPlain c := by
  simp only [Numeral.text, Numeral.fractionText, Numeral.exponentText, List.mem_append] at h
  rcases h with h | h | h | h
  · split at h
    · obtain rfl := List.mem_singleton.mp h
      decide
    · cases h
  · exact isPlain_of_isAsciiDigit (hn.whole c h)
  · split at h
    · cases h
    · rcases List.mem_cons.mp h with rfl | h
      · decide
      · exact isPlain_of_isAsciiDigit (hn.fraction c h)
  · cases hexponent : n.exponent with
    | none =>
      rw [hexponent] at h
      cases h
    | some e =>
      rw [hexponent] at h
      simp only [Option.elim_some, List.mem_cons] at h
      rcases h with rfl | rfl | h
      · decide
      · split <;> decide
      · exact isPlain_of_isAsciiDigit ((hn.exponent e hexponent).2 c h)

theorem isPlain_word {word : String} {v : Value} (h : (word, v) ∈ words) (hc : c ∈ word.toList) :
    IsPlain c := by
  have hall : words.all fun entry => entry.1.toList.all fun c => decide (IsPlain c) := by
    simp [words]
    decide
  exact of_decide_eq_true (List.all_eq_true.mp (List.all_eq_true.mp hall _ h) c hc)

/-- What is written for a scalar is plain, but for the semicolons of a text. -/
theorem ScalarText.isPlain {v : Value} (h : ScalarText v text) (hc : c ∈ text) :
    IsPlain c ∨ c = ';' ∧ ∃ s, v = .text s ∧ ';' ∈ s.toList := by
  cases h with
  | word h => exact .inl (isPlain_word h hc)
  | numeral hn => exact .inl (hn.isPlain hc)
  | quoted s => exact (isPlain_writtenText hc).imp_right fun h => ⟨h.1, s, rfl, h.2⟩

end Plain

end Json
end WorkflowAudit
