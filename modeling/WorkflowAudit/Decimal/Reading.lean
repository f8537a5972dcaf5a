import WorkflowAudit.Decimal.Binary
import WorkflowAudit.Text.Blank
import WorkflowAudit.Text.Digit

/-! # Reading decimals

A decimal text stands for a whole number times a power of ten, and is read as the double nearest to
it.  Exponents far outside the range of doubles give zero or infinity without any power being
computed.
-/

namespace WorkflowAudit.Decimal

/-- The double nearest to `mantissa * 10 ^ exponent`. -/
def ofDecimal (negative : Bool) (mantissa : Nat) (exponent : Int) : Float :=
  let size : Int := (Text.decimalDigits mantissa).length + exponent
  if mantissa = 0 ∨ size < -400 then nearest negative 0 1
  else if size > 400 then nearest negative (Nat.pow 2 1100) 1
  else if exponent ≥ 0 then nearest negative (mantissa * Nat.pow 10 exponent.toNat) 1
  else nearest negative mantissa (Nat.pow 10 (-exponent).toNat)

/-- Splits off a sign; the flag says whether it is a minus. -/
def takeSign : List Char → Bool × List Char
  | '-' :: rest => (true, rest)
  | '+' :: rest => (false, rest)
  | rest => (false, rest)

/-- The number at the end of an exponent part: a sign if any, then digits and nothing else. -/
def exponent? (text : List Char) : Option Int :=
  let (negative, digits) := takeSign text
  if digits.isEmpty || !digits.all Text.isAsciiDigit then none
  else
    let n : Int := Text.digitsValue digits
    some (if negative then -n else n)

/-- Digits in which single underscores may stand between digits. -/
def groupedDigits? (text : List Char) : Option (List Char) :=
  let rec go (afterDigit : Bool) : List Char → Option (List Char)
    | [] => if afterDigit then some [] else none
    | '_' :: rest => if afterDigit then go false rest else none
    | c :: rest => if (Text.digitValue? c).isSome then (go true rest).map (c :: ·) else none
  go false text

/-- The integer that a text spells: digits of any script with single underscores between them, a
sign if any, and white space around; `none` for any other text, and for more digits than are
read. -/
def readInt? (text : List Char) : Option Int :=
  let (negative, digits) := takeSign (Text.strip text)
  match groupedDigits? digits with
  | none => none
  | some digits =>
    if digits.length > Text.digitLimit then none
    else
      let n : Int := Text.digitsValue digits
      some (if negative then -n else n)

end WorkflowAudit.Decimal
