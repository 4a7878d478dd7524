import MessagingConsole.Text.Numeral

/-!
# Calendar

Instants and the stamps that show them on a local clock, in the proleptic Gregorian
calendar.  A year of the calculation begins in March, so that a leap day is the last
day of its year; 400 such years have 146097 days.

## Main Definitions

- `Instant` - a point in time together with the offset of a local clock.
- `civilDate` - the date of a day counted from 1 January 1970.
- `Instant.stamp` - year, month, day, hour, minute and second as a text.
-/

namespace MessagingConsole

/-- A point in time: the seconds since the beginning of 1970, the nanoseconds past
them, and how many seconds the local clock is ahead.  Nanoseconds of 10^9 and more
lie within a leap second. -/
structure Instant where
  seconds : Int
  nanos : Nat
  offset : Int
  deriving DecidableEq, Repr

namespace Calendar

/-- A day of the calendar. -/
structure Date where
  year : Int
  month : Nat
  day : Nat
  deriving DecidableEq, Repr

/-- The days from 1 March of year 0 to 1 January 1970. -/
def epochDay : Int := 719468

/-- The days of a cycle of 400 years. -/
def cycleDays : Nat := 146097

/-- The date of a day within a cycle of 400 years that begins in March.  Centuries of
36524 days hold periods of 1461 days, and those hold years of 365 days; the last of
each kind is the one that may be a day longer. -/
def dateInCycle (cycle : Int) (day : Nat) : Date :=
  let century := min 3 (day / 36524)
  let inCentury := day - 36524 * century
  let period := inCentury / 1461
  let inPeriod := inCentury % 1461
  let year := min 3 (inPeriod / 365)
  let inYear := inPeriod - 365 * year
  let month := (5 * inYear + 2) / 153
  { year := 400 * cycle + 100 * century + 4 * period + year + (if month < 10 then 0 else 1)
    month := if month < 10 then month + 3 else month - 9
    day := inYear - (153 * month + 2) / 5 + 1 }

/-- The date of the day that is `days` days after 1 January 1970. -/
def civilDate (days : Int) : Date :=
  let day := days + epochDay
  dateInCycle (day / cycleDays) (day % cycleDays).toNat

/-- The numeral of a year: four digits from 0 to 9999, else a sign and at least four. -/
def yearText (year : Int) : String :=
  if year < 0 then "-" ++ Text.zeroPadded 4 year.natAbs
  else if year ≤ 9999 then Text.zeroPadded 4 year.natAbs
  else "+" ++ Text.zeroPadded 4 year.natAbs

end Calendar

/-- The seconds that the local clock shows, counted from 1970. -/
def Instant.local (t : Instant) : Int :=
  t.seconds + t.offset

/-- What the local clock shows as `YYYY-MM-DD hh:mm:ss`.  In a leap second the shown
second is one more than that of the shifted instant, without a carry. -/
def Instant.stamp (t : Instant) : String :=
  let date := Calendar.civilDate (t.local / 86400)
  let second := (t.local % 86400).toNat
  let shown := second % 60 + (if t.nanos < 1000000000 then 0 else 1)
  Calendar.yearText date.year ++ "-" ++ Text.zeroPadded 2 date.month ++ "-" ++
    Text.zeroPadded 2 date.day ++ " " ++ Text.zeroPadded 2 (second / 3600) ++ ":" ++
    Text.zeroPadded 2 (second / 60 % 60) ++ ":" ++ Text.zeroPadded 2 shown

end MessagingConsole
