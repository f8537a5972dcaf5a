import WorkflowAudit.Decimal.Binary
import WorkflowAudit.Text.Digit

/-! # The shortest decimal of a double

A double is written with the fewest decimal digits that read back as the same double; of several
such decimals the nearest is taken, a tie going to the even digit.  The reals that read back as `m *
2 ^ q` form an interval around it, whose ends belong to it exactly when `m` is even.  For each
number of digits the two neighbours of the value on the decimal grid are tested in exact arithmetic,
and the first grid with a hit wins.
-/

namespace WorkflowAudit.Decimal

/-- A positive decimal: `0.d₁d₂… * 10 ^ point`. -/
structure Digits where
  digits : List Char
  point : Int

/-- The least `k` above `start` with `n / m < 10 ^ k`, looking at most `fuel` steps further. -/
def leastPower (n m : Nat) : (fuel : Nat) → (start : Int) → Int
  | 0, start => start
  | fuel + 1, start =>
    let below :=
      if start ≥ 0 then n < m * Nat.pow 10 start.toNat else n * Nat.pow 10 (-start).toNat < m
    if below then start else leastPower n m fuel (start + 1)

/-- The digits of the grid point that is nearest to the value and reads back as it, when the grid
with `count` digits has one.  The value, and the ends of its interval, are `middle`, `low` and
`high` in units of `2 ^ unit`. -/
def gridHit? (low middle high : Nat) (unit : Int) (inclusive : Bool) (point : Int) (count : Nat) :
    Option Nat :=
  let step : Int := point - count
  let (top, bottom) := scaledPair 1 1 unit
  let (top, bottom) :=
    if step ≥ 0 then (top, bottom * Nat.pow 10 step.toNat)
    else (top * Nat.pow 10 (-step).toNat, bottom)
  let floor := middle * top / bottom
  let hits (candidate : Nat) : Bool :=
    if inclusive then low * top ≤ candidate * bottom && candidate * bottom ≤ high * top
    else low * top < candidate * bottom && candidate * bottom < high * top
  let below := middle * top - floor * bottom
  let above := (floor + 1) * bottom - middle * top
  match hits floor, hits (floor + 1) with
  | true, true =>
    if below < above then some floor
    else if above < below then some (floor + 1)
    else if floor % 2 = 0 then some floor
    else some (floor + 1)
  | true, false => some floor
  | false, true => some (floor + 1)
  | false, false => none

/-- The first grid, from `count` digits on, that has a hit; seventeen digits always do. -/
def firstHit (low middle high : Nat) (unit : Int) (inclusive : Bool) (point : Int) :
    (fuel count : Nat) → Nat × Nat
  | 0, count => (middle, count)
  | fuel + 1, count =>
    match gridHit? low middle high unit inclusive point count with
    | some digits => (digits, count)
    | none => firstHit low middle high unit inclusive point fuel (count + 1)

/-- The shortest digits of `mantissa * 2 ^ exponent`, for a positive mantissa. -/
def shortestDigits (mantissa : Nat) (exponent : Int) : Digits :=
  let (n, m) := scaledPair mantissa 1 exponent
  let size : Int := (n.log2 : Int) - m.log2
  let point := leastPower n m 4 ((size - 1) * 30103 / 100000)
  -- below a power of two the doubles lie twice as close
  let low :=
    if mantissa = Nat.pow 2 52 ∧ exponent > -1074 then 4 * mantissa - 1 else 4 * mantissa - 2
  let (value, count) :=
    firstHit low (4 * mantissa) (4 * mantissa + 2) (exponent - 2) (mantissa % 2 = 0) point 17 1
  let written := Text.decimalDigits value
  let trimmed := (written.reverse.dropWhile (· = '0')).reverse
  ⟨trimmed, point + ((written.length : Int) - count)⟩

/-- How the number formats of the reports write a decimal: positionally from ten-thousandths up to
sixteen digits before the point, always with a point, and otherwise with a signed exponent of at
least two digits. -/
def Digits.text (d : Digits) : List Char :=
  let exponent := d.point - 1
  if -4 ≤ exponent ∧ exponent < 16 then
    if d.point ≤ 0 then
      '0' :: '.' :: List.replicate (-d.point).toNat '0' ++ d.digits
    else
      let whole := d.point.toNat
      let fraction := d.digits.drop whole
      (d.digits.take whole ++ List.replicate (whole - d.digits.length) '0') ++
        '.' :: (if fraction.isEmpty then ['0'] else fraction)
  else
    let mark := if exponent < 0 then '-' else '+'
    let tail := 'e' :: mark :: Text.paddedDigits 2 exponent.natAbs
    match d.digits with
    | [] => tail
    | [c] => c :: tail
    | c :: rest => c :: '.' :: rest ++ tail

/-- The text of a double. -/
def floatText (x : Float) : List Char :=
  match Binary.ofFloat x with
  | .notANumber => "nan".toList
  | .infinite negative => if negative then "-inf".toList else "inf".toList
  | .finite negative mantissa exponent =>
    let magnitude := if mantissa = 0 then "0.0".toList else (shortestDigits mantissa exponent).text
    if negative then '-' :: magnitude else magnitude

end WorkflowAudit.Decimal
