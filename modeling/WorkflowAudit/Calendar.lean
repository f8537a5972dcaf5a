import WorkflowAudit.Text.Digit

/-! # Dates and moments

Days of the proleptic Gregorian calendar from year 1 to year 9999, and moments to the microsecond.
A moment is `zoned` when it was written with an offset from universal time or with the letter that
joins day and time; it has then been moved to universal time.
-/

namespace WorkflowAudit

/-- A day. -/
structure Date where
  year : Nat
  month : Nat
  day : Nat
deriving BEq, DecidableEq

/-- A day and a time of day. -/
structure Moment where
  date : Date
  hour : Nat
  minute : Nat
  second : Nat
  microsecond : Nat
  zoned : Bool
deriving BEq, DecidableEq

namespace Date

/-- Whether a year has a 29th of February. -/
def isLeapYear (year : Nat) : Bool :=
  year % 4 = 0 && (year % 100 ≠ 0 || year % 400 = 0)

/-- The number of days of a month. -/
def daysInMonth (year month : Nat) : Nat :=
  if month = 2 then (if isLeapYear year then 29 else 28)
  else if [4, 6, 9, 11].contains month then 30
  else 31

/-- The number of days from the first day of year 1 to the first day of a year. -/
def daysBeforeYear (year : Nat) : Nat :=
  let past := year - 1
  past * 365 + past / 4 - past / 100 + past / 400

/-- The number of days from the first day of year 1 to a day. -/
def dayNumber (d : Date) : Nat :=
  let daysBeforeMonth :=
    (List.range (d.month - 1)).foldl (fun days m => days + daysInMonth d.year (m + 1)) 0
  daysBeforeYear d.year + daysBeforeMonth + (d.day - 1)

/-- The month and day reached after `rest` days from the first day of `month`. -/
def walkMonths (year : Nat) : (fuel month rest : Nat) → Date
  | 0, month, rest => ⟨year, month, rest + 1⟩
  | fuel + 1, month, rest =>
    if rest < daysInMonth year month then ⟨year, month, rest + 1⟩
    else walkMonths year fuel (month + 1) (rest - daysInMonth year month)

/-- The day with a given number, when it lies in the calendar. -/
def ofDayNumber? (n : Int) : Option Date :=
  if n < 0 ∨ n ≥ daysBeforeYear 10000 then none
  else
    let days := n.toNat
    -- an estimate that is never too late
    let guess := days / 366 + 1
    let candidates := (List.range (guess / 400 + 30)).map (guess + ·)
    let year := ((candidates.takeWhile fun y => daysBeforeYear y ≤ days).getLast?).getD guess
    some (walkMonths year 12 1 (days - daysBeforeYear year))

/-- `YYYY-MM-DD`. -/
def text (d : Date) : List Char :=
  Text.paddedDigits 4 d.year ++ '-' :: Text.paddedDigits 2 d.month ++ '-' ::
    Text.paddedDigits 2 d.day

end Date

namespace Moment

/-- A moment as a day and a time of day joined by `joiner`; microseconds are shown when there are
any. -/
def textWith (joiner : Char) (m : Moment) : List Char :=
  let fraction := if m.microsecond = 0 then [] else '.' :: Text.paddedDigits 6 m.microsecond
  m.date.text ++ joiner :: Text.paddedDigits 2 m.hour ++ ':' :: Text.paddedDigits 2 m.minute ++
    ':' :: Text.paddedDigits 2 m.second ++ fraction

/-- Moves a moment by a number of seconds; `none` when it leaves the calendar. -/
def shift? (m : Moment) (seconds : Int) : Option Moment :=
  let total : Int :=
    (m.date.dayNumber : Int) * 86400 + (m.hour * 3600 + m.minute * 60 + m.second : Nat) + seconds
  let days := total.fdiv 86400
  let rest := (total.fmod 86400).toNat
  (Date.ofDayNumber? days).map fun date =>
    { m with date := date, hour := rest / 3600, minute := rest / 60 % 60, second := rest % 60 }

end Moment

end WorkflowAudit
