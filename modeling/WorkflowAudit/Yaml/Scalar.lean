import WorkflowAudit.Calendar
import WorkflowAudit.Yaml.Schema

/-! # The values of scalars

What the text of a scalar stands for under its tag.  A tag may be written out before any text, so a
text need not have the form its tag expects; each such mismatch has a failure of its own.
-/

namespace WorkflowAudit.Yaml.Scalar

/-! ## Truth values and integers -/

/-- The truth value of a word, in any case. -/
def boolValue (text : List Char) : Except Failure Bool :=
  let word := String.ofList (text.map Char.toLower)
  if ["yes", "y", "true", "on"].contains word then pure true
  else if ["no", "n", "false", "off"].contains word then pure false
  else throw (.noKey (.text word))

/-- The value of a digit in bases up to sixteen. -/
def digitIn? (base : Nat) (c : Char) : Option Nat :=
  let value :=
    if Text.isAsciiDigit c then some (c.toNat - 48)
    else if 'a' ≤ c ∧ c ≤ 'f' then some (c.toNat - 87)
    else if 'A' ≤ c ∧ c ≤ 'F' then some (c.toNat - 55)
    else none
  value.filter (· < base)

/-- The integer that a text spells in a base. -/
def intIn (base : Nat) (text : List Char) : Except Failure Int :=
  let refused := Failure.badInteger base (String.ofList text)
  if base = 10 then
    let count := ((Decimal.takeSign (Text.strip text)).2.takeWhile Text.isDigit).length
    if count > Text.digitLimit then throw (.longNumeral count)
    else
      match Decimal.readInt? text with
      | some n => pure n
      | none => throw refused
  else
    let (negative, digits) := Decimal.takeSign (Text.strip text)
    match digits.mapM (digitIn? base) with
    | none | some [] => throw refused
    | some values =>
      let n : Nat := values.foldl (fun n d => base * n + d) 0
      pure (if negative then -(n : Int) else n)

/-- The number that parts to the base sixty make up. -/
def sixties (parts : List Int) : Int :=
  parts.foldl (fun n part => 60 * n + part) 0

/-- The integer that the text of a scalar stands for. -/
def intValue (version : Version) (text : List Char) : Except Failure Int := do
  let written := text.filter (· ≠ '_')
  if written.isEmpty then throw (.outOfRange "string")
  let (negative, digits) := Decimal.takeSign written
  let n ← magnitude digits
  return if negative then -n else n
where
  /-- The integer without its sign. -/
  magnitude (digits : List Char) : Except Failure Int :=
    match digits with
    | ['0'] => pure 0
    | '0' :: 'b' :: rest => based 2 rest
    | '0' :: 'x' :: rest => based 16 rest
    | '0' :: 'o' :: rest => based 8 rest
    | [] => throw (.outOfRange "string")
    | c :: _ =>
      if version ≠ Version.current && c = '0' then intIn 8 digits
      else if version ≠ Version.current && digits.contains ':' then do
        return sixties (← (Text.pieces ':' digits).mapM (intIn 10))
      else intIn 10 digits
  /-- The digits behind the mark of a base. -/
  based (base : Nat) (rest : List Char) : Except Failure Int :=
    if version.isNew && rest.isEmpty then throw (.outOfRange "string") else intIn base rest

/-! ## Doubles -/

/-- The double that an ordinary decimal text spells. -/
def decimalFloat? (text : List Char) : Option Float :=
  let (negative, body) := Decimal.takeSign (Text.strip text)
  let signed (x : Float) : Float := if negative then -x else x
  let word := String.ofList (body.map Char.toLower)
  if word == "inf" || word == "infinity" then some (signed (1 / 0))
  else if word == "nan" then some (0 / 0)
  else
    let whole := body.takeWhile Text.isAsciiDigit
    let behind := body.drop whole.length
    let (fraction, tail) :=
      match behind with
      | '.' :: rest => (rest.takeWhile Text.isAsciiDigit, rest.dropWhile Text.isAsciiDigit)
      | _ => ([], behind)
    if whole.isEmpty && fraction.isEmpty then none
    else
      let exponent? : Option Int :=
        match tail with
        | [] => some 0
        | c :: rest => if c = 'e' || c = 'E' then Decimal.exponent? rest else none
      exponent?.map fun exponent =>
        Decimal.ofDecimal negative (Text.digitsValue (whole ++ fraction))
          (exponent - fraction.length)

/-- The double that an ordinary decimal text spells, or the failure. -/
def decimalFloat (text : List Char) : Except Failure Float :=
  match decimalFloat? text with
  | some x => pure x
  | none => throw (.badFloat (String.ofList text))

/-- The sum of parts to the base sixty. -/
def floatSixties (parts : List Float) : Float :=
  (parts.reverse.foldl (fun (sum, base) part => (sum + part * base, base * 60))
    ((0, 1) : Float × Float)).1

/-- A text with an exponent must have exactly one exponent mark, in one of the two cases, with
something behind it. -/
def checkExponent (text : List Char) : Except Failure Unit :=
  let check (parts : List (List Char)) : Except Failure Unit :=
    match parts with
    | [_, exponent] => if exponent.isEmpty then throw (.outOfRange "string") else pure ()
    | [] => throw (.tooFewToUnpack 2 0)
    | [_] => throw (.tooFewToUnpack 2 1)
    | _ => throw (.tooManyToUnpack 2)
  let lower := Text.pieces 'e' text
  if lower.length = 2 then check lower else check (Text.pieces 'E' text)

/-- The double that the text of a scalar stands for. -/
def floatValue (version : Version) (text : List Char) : Except Failure Float := do
  let written := (text.filter (· ≠ '_')).map Char.toLower
  if written.isEmpty then throw (.outOfRange "string")
  let (negative, body) := Decimal.takeSign written
  let signed (x : Float) : Float := if negative then -x else x
  if body = ".inf".toList then return signed (1 / 0)
  else if body = ".nan".toList then return 0 / 0
  else if version ≠ Version.current && body.contains ':' then
    return signed (floatSixties (← (Text.pieces ':' body).mapM decimalFloat))
  else if body.contains 'e' then
    checkExponent text
    return signed (← decimalFloat body)
  else if text.contains '.' then return signed (← decimalFloat body)
  else throw .missingPoint

/-! ## Points in time -/

/-- The parts of a point in time. -/
structure TimeParts where
  year : Nat
  month : Nat
  day : Nat
  /-- Hour, minute and second, when a time of day is given. -/
  time : Option (Nat × Nat × Nat) := none
  /-- The digits behind the decimal point of the second. -/
  fraction : List Char := []
  /-- Whether the letter that joins day and time was written. -/
  joined : Bool := false
  /-- The offset from universal time in minutes, when a signed one was written. -/
  offset : Option Int := none

/-- The number at the front of a text, and what follows it. -/
def number (text : List Char) : Nat × List Char :=
  let digits := text.takeWhile Text.isAsciiDigit
  (Text.digitsValue digits, text.drop digits.length)

/-- The offset that a zone stands for. -/
def zoneOffset : List Char → Option Int
  | sign :: rest =>
    if sign = '-' || sign = '+' then
      let (hours, behind) := number rest
      let (minutes, _) := number (behind.drop 1)
      let offset : Int := hours * 60 + minutes
      some (if sign = '-' then -offset else offset)
    else none
  | [] => none

/-- The parts of a text that has the form of a point in time.  One or two digits do for month and
day, also without a time. -/
def timeParts? (text : List Char) : Option TimeParts :=
  match Schema.dayShape? text with
  | some ((4, months, days), rest) =>
    if (months = 1 || months = 2) && (days = 1 || days = 2) then
      let (year, behind) := number text
      let (month, behind) := number (behind.drop 1)
      let (day, _) := number (behind.drop 1)
      let parts : TimeParts := { year := year, month := month, day := day }
      match rest with
      | [] => some parts
      | c :: behind =>
        let joined := c = 'T' || c = 't'
        let time := if joined then behind else behind.dropWhile fun c => c = ' ' || c = '\t'
        if (joined || c = ' ' || c = '\t') && Schema.isTime time then
          let (hour, behind) := number time
          let (minute, behind) := number (behind.drop 1)
          let (second, behind) := number (behind.drop 1)
          let (fraction, behind) :=
            match behind with
            | '.' :: rest => (rest.takeWhile Text.isAsciiDigit, rest.dropWhile Text.isAsciiDigit)
            | _ => ([], behind)
          let zone := behind.dropWhile fun c => c = ' ' || c = '\t'
          some { parts with
            time := some (hour, minute, second)
            fraction := fraction
            joined := joined
            offset := zoneOffset zone }
        else none
    else none
  | _ => none

/-- The microseconds that the digits of a fraction stand for, rounded by the seventh digit. -/
def microseconds (fraction : List Char) : Nat :=
  let first := fraction.take 6
  let base := Text.digitsValue (first ++ List.replicate (6 - first.length) '0')
  match fraction.drop 6 with
  | [] => base
  | c :: _ => if c > '4' then base + 1 else base

/-- The day with given numbers, when the calendar has it. -/
def checkedDate (year month day : Nat) : Except Failure Date :=
  if year = 0 then throw (.yearOutOfRange year)
  else if month < 1 ∨ month > 12 then throw (.outOfCalendar "month" "1..12")
  else if day < 1 ∨ day > Date.daysInMonth year month then throw .dayOutOfMonth
  else pure ⟨year, month, day⟩

/-- The moment with given numbers, when it exists. -/
def checkedMoment (year month day hour minute second microsecond : Nat) (zoned : Bool) :
    Except Failure Moment := do
  let date ← checkedDate year month day
  if hour > 23 then throw (.outOfCalendar "hour" "0..23")
  if minute > 59 then throw (.outOfCalendar "minute" "0..59")
  if second > 59 then throw (.outOfCalendar "second" "0..59")
  return ⟨date, hour, minute, second, microsecond, zoned⟩

/-- The seconds by which a moment is moved to reach universal time.  A fraction that was rounded up
to a whole second adds one, in the direction of the offset where there is one. -/
def movedSeconds (offset : Option Int) (roundedUp : Bool) : Int :=
  let whole : Int := if roundedUp then 1 else 0
  match offset with
  | none => whole
  | some minutes => if minutes < 0 then -minutes * 60 + whole else -(minutes * 60 + whole)

/-- The text without a newline at its end. -/
def withoutLastNewline (text : List Char) : List Char :=
  if text.getLast? = some '\n' then text.dropLast else text

/-- The day or the moment that the text of a scalar stands for.  A moment with an offset is moved to
universal time. -/
def timeValue (text : List Char) : Except Failure Value := do
  match timeParts? (withoutLastNewline text) with
  | none => throw (.document .construction)
  | some parts =>
    match parts.time with
    | none => return .date (← checkedDate parts.year parts.month parts.day)
    | some (hour, minute, second) =>
      let micro := microseconds parts.fraction
      let roundedUp := micro > 999999
      let zoned := parts.joined || parts.offset.isSome
      let written ← checkedMoment parts.year parts.month parts.day hour minute second
        (if roundedUp then 0 else micro) zoned
      match written.shift? (movedSeconds parts.offset roundedUp) with
      | none => throw .overflow
      | some m => return .moment m

/-! ## Bytes -/

/-- The six bits of a character of the base-64 alphabet. -/
def sextet? (c : Char) : Option Nat :=
  if 'A' ≤ c ∧ c ≤ 'Z' then some (c.toNat - 65)
  else if 'a' ≤ c ∧ c ≤ 'z' then some (c.toNat - 71)
  else if Text.isAsciiDigit c then some (c.toNat + 4)
  else if c = '+' then some 62
  else if c = '/' then some 63
  else none

/-- What has been decoded so far: the characters seen in the current group of four, the bits left
over from them, and the number of padding characters in a row. -/
structure Decoding where
  bytes : List UInt8 := []
  place : Nat := 0
  bits : Nat := 0
  padding : Nat := 0
  done : Bool := false

/-- Takes one more character; characters outside the alphabet are passed over. -/
def Decoding.take (d : Decoding) (c : Char) : Decoding :=
  if d.done then d
  else if c = '=' then
    let padding := d.padding + 1
    if d.place ≥ 2 && d.place + padding ≥ 4 then { d with done := true }
    else { d with padding := padding }
  else
    match sextet? c with
    | none => d
    | some n =>
      match d.place with
      | 0 => { d with place := 1, bits := n, padding := 0 }
      | 1 =>
        let byte := UInt8.ofNat (d.bits * 4 + n / 16)
        { d with place := 2, bits := n % 16, padding := 0, bytes := d.bytes ++ [byte] }
      | 2 =>
        let byte := UInt8.ofNat (d.bits * 16 + n / 4)
        { d with place := 3, bits := n % 4, padding := 0, bytes := d.bytes ++ [byte] }
      | _ =>
        let byte := UInt8.ofNat (d.bits * 64 + n)
        { d with place := 0, bits := 0, padding := 0, bytes := d.bytes ++ [byte] }

/-- The bytes that a base-64 text stands for. -/
def bytesValue (text : List Char) : Except Failure (List UInt8) :=
  let refused := Failure.document .construction
  if text.any (·.toNat ≥ 128) then throw refused
  else
    let decoding := text.foldl Decoding.take {}
    if decoding.done || decoding.place = 0 then pure decoding.bytes else throw refused

/-! ## Scalars by tag -/

/-- The value of a scalar.  A truth value with an anchor is kept as a number. -/
def value (version : Version) (anchored : Bool) (tag : Tag) (text : List Char) :
    Except Failure Value :=
  match tag with
  | .null => pure .null
  | .bool => do
    let b ← boolValue text
    return if anchored then .int (if b then 1 else 0) else .bool b
  | .int => return .int (← intValue version text)
  | .float => return .float (← floatValue version text)
  | .binary => return .bytes (← bytesValue text)
  | .timestamp => timeValue text
  | .text => pure (.ofChars text)
  | .merge =>
    pure (.tagged (String.ofList (Tag.namespaceText ++ "merge".toList)) (String.ofList text))
  | .default =>
    pure (.tagged (String.ofList (Tag.namespaceText ++ "value".toList)) (String.ofList text))
  | .unknown name => pure (.tagged (String.ofList name) (String.ofList text))
  | .orderedMapping | .pairs | .set | .sequence | .mapping => throw (.document .construction)

end WorkflowAudit.Yaml.Scalar
