/-! # Binary numbers

A finite double is a signed whole number times a power of two.  This module takes a double apart
into that form and puts the double nearest to a quotient of two naturals together, a tie going to
the even neighbour.  Both directions use exact arithmetic on natural numbers.
-/

namespace WorkflowAudit.Decimal

/-- A double as what it stands for. -/
inductive Binary where
  /-- `mantissa * 2 ^ exponent`, negated when `negative`. -/
  | finite (negative : Bool) (mantissa : Nat) (exponent : Int)
  | infinite (negative : Bool)
  | notANumber

/-- Takes a double apart. -/
def Binary.ofFloat (x : Float) : Binary :=
  let bits := x.toBits.toNat
  let negative := bits / Nat.pow 2 63 == 1
  let exponent : Nat := bits / Nat.pow 2 52 % Nat.pow 2 11
  let fraction : Nat := bits % Nat.pow 2 52
  if exponent = 2047 then
    if fraction = 0 then .infinite negative else .notANumber
  else if exponent = 0 then
    .finite negative fraction (-1074)
  else
    .finite negative (Nat.pow 2 52 + fraction) ((exponent : Int) - 1075)

/-- The pair of naturals whose quotient is `n * 2 ^ exponent / m`. -/
def scaledPair (n m : Nat) (exponent : Int) : Nat × Nat :=
  if exponent ≥ 0 then (n * Nat.pow 2 exponent.toNat, m) else (n, m * Nat.pow 2 (-exponent).toNat)

/-- The natural nearest to a quotient, a tie going to the even one. -/
def roundedQuotient (n m : Nat) : Nat :=
  let quotient := n / m
  let rest := n % m
  if 2 * rest > m ∨ (2 * rest = m ∧ quotient % 2 = 1) then quotient + 1 else quotient

/-- The bits of the non-negative double nearest to `n / m`; a quotient too large for a double gives
infinity. -/
def nearestBits (n m : Nat) : Nat :=
  if n = 0 then 0
  else
    -- the quotient lies between two to the powers `size - 1` and `size + 1`
    let size : Int := (n.log2 : Int) - m.log2
    let exponent := max (size - 53) (-1074)
    let (n₁, m₁) := scaledPair n m (-exponent)
    let exponent := if n₁ / m₁ ≥ Nat.pow 2 53 then exponent + 1 else exponent
    let (n₂, m₂) := scaledPair n m (-exponent)
    let mantissa := roundedQuotient n₂ m₂
    let bits :=
      if mantissa < Nat.pow 2 52 then mantissa
      else (exponent + 1074).toNat * Nat.pow 2 52 + mantissa
    min bits (2047 * Nat.pow 2 52)

/-- The double nearest to `n / m`, negated when `negative`. -/
def nearest (negative : Bool) (n m : Nat) : Float :=
  let bits := nearestBits n m
  Float.ofBits (UInt64.ofNat (if negative then Nat.pow 2 63 + bits else bits))

/-- The double nearest to an integer; `none` when the integer is too large. -/
def ofInt? (n : Int) : Option Float :=
  let bits := nearestBits n.natAbs 1
  if bits < 2047 * Nat.pow 2 52 then some (nearest (n < 0) n.natAbs 1) else none

/-- Whether a double is zero, of either sign. -/
def Binary.isZero : Binary → Bool
  | .finite _ mantissa _ => mantissa == 0
  | _ => false

/-- Whether two doubles stand for the same: both zeros are one number, and what is not a number is
itself. -/
def Binary.equal : Binary → Binary → Bool
  | .finite negative mantissa exponent, .finite negative' mantissa' exponent' =>
    if mantissa == 0 then mantissa' == 0
    else negative == negative' && mantissa == mantissa' && exponent == exponent'
  | .infinite negative, .infinite negative' => negative == negative'
  | .notANumber, .notANumber => true
  | _, _ => false

/-- Whether a double is exactly an integer. -/
def Binary.isInt (b : Binary) (n : Int) : Bool :=
  match b with
  | .finite negative mantissa exponent =>
    let (m, d) := scaledPair mantissa 1 exponent
    m == n.natAbs * d && (n == 0 || negative == decide (n < 0))
  | _ => false

/-- The integer part of a finite double, cut toward zero. -/
def Binary.truncated? (b : Binary) : Option Int :=
  match b with
  | .finite negative mantissa exponent =>
    let (m, d) := scaledPair mantissa 1 exponent
    some (if negative then -((m / d : Nat) : Int) else (m / d : Nat))
  | _ => none

end WorkflowAudit.Decimal
