/-!
# Instants and calendar dates

Instants count seconds from the beginning of 1970, and calendar dates are those of the proleptic
Gregorian calendar.

## Main Definitions

* `Instant` — a second and the nanoseconds within it
* `Instant.ofUnix?` — an instant within the supported years, which run from -262143 to 262142
* `Date.ofDays`, `Date.toDays` — the date of a day number and back
-/

namespace PreviewSync

/-- A point in time. More than 999999999 nanoseconds stand for a leap second that follows the given
second. Dates are written to the second, so nanoseconds show there in no other way. -/
structure Instant where
  seconds : Int
  nanoseconds : Nat
deriving Repr, DecidableEq

namespace Instant

/-- The first supported second. -/
def firstSecond : Int :=
  -8334601228800

/-- The last supported second. -/
def lastSecond : Int :=
  8210266876799

/-- The beginning of 1970. -/
def epoch : Instant :=
  ⟨0, 0⟩

/-- An instant of a supported year. A leap second can only follow the last second of a minute. -/
def ofUnix? (seconds : Int) (nanoseconds : Nat) : Option Instant :=
  if seconds < firstSecond ∨ lastSecond < seconds then none
  else if 2000000000 ≤ nanoseconds then none
  else if 1000000000 ≤ nanoseconds ∧ seconds % 60 ≠ 59 then none
  else some ⟨seconds, nanoseconds⟩

/-- The number of the day, 0 for 1 January 1970. -/
def day (t : Instant) : Int :=
  t.seconds / 86400

/-- The second within the day. -/
def secondOfDay (t : Instant) : Nat :=
  (t.seconds % 86400).toNat

/-- The hour, minute and second; a leap second is the sixtieth. -/
def time (t : Instant) : Nat × Nat × Nat :=
  let s := t.secondOfDay
  (s / 3600, s / 60 % 60, s % 60 + if t.nanoseconds < 1000000000 then 0 else 1)

end Instant

/-- A calendar date; months and days count from one. -/
structure Date where
  year : Int
  month : Nat
  day : Nat
deriving Repr, DecidableEq

namespace Date

/-- The date of a day number. Years are counted from March and in cycles of 400, which have 146097
days. So the day that is only there in some years is the last one of a year. -/
def ofDays (days : Int) : Date :=
  let shifted := days + 719468
  let dayOfCycle := (shifted % 146097).toNat
  let yearOfCycle :=
    (dayOfCycle - dayOfCycle / 1460 + dayOfCycle / 36524 - dayOfCycle / 146096) / 365
  let dayOfYear := dayOfCycle - (365 * yearOfCycle + yearOfCycle / 4 - yearOfCycle / 100)
  let monthFromMarch := (5 * dayOfYear + 2) / 153
  let month := if monthFromMarch < 10 then monthFromMarch + 3 else monthFromMarch - 9
  { year := shifted / 146097 * 400 + yearOfCycle + if month ≤ 2 then 1 else 0
    month := month
    day := dayOfYear - (153 * monthFromMarch + 2) / 5 + 1 }

/-- The number of a day. -/
def toDays (date : Date) : Int :=
  let year := if date.month ≤ 2 then date.year - 1 else date.year
  let yearOfCycle := (year % 400).toNat
  let monthFromMarch := if date.month ≤ 2 then date.month + 9 else date.month - 3
  let dayOfYear := (153 * monthFromMarch + 2) / 5 + date.day - 1
  let dayOfCycle := 365 * yearOfCycle + yearOfCycle / 4 - yearOfCycle / 100 + dayOfYear
  year / 400 * 146097 + dayOfCycle - 719468

end Date

end PreviewSync
