/-!
Moments of civil time, and what the calendar says about them: weekdays, days and weeks of the
year, and the weeks of ISO 8601, which belong to the year of their Thursday.
-/

namespace CopyFormat.Date

/-- A moment of civil time: a date, a time of day, and how many seconds the clock is ahead of
universal time. -/
structure Moment where
  year : Int
  month : Nat
  day : Nat
  hour : Nat
  minute : Nat
  second : Nat
  nanosecond : Nat
  offset : Int
  deriving DecidableEq, Repr, Inhabited

def isLeap (year : Int) : Bool := year % 4 == 0 && (year % 100 != 0 || year % 400 == 0)

def daysIn (year : Int) : Nat → Nat
  | 2 => if isLeap year then 29 else 28
  | 4 | 6 | 9 | 11 => 30
  | _ => 31

def daysBefore (year : Int) : Nat → Nat
  | 0 => 0
  | month + 1 => daysBefore year month + if month = 0 then 0 else daysIn year month

/-- How many days lie between the first day of the year 1 and that of another year. -/
def daysBeforeYear (year : Int) : Int :=
  let y := year - 1
  365 * y + y / 4 - y / 100 + y / 400

namespace Moment

def dayOfYear (m : Moment) : Nat := daysBefore m.year m.month + m.day

/-- The day of the week, Monday being zero. -/
def weekday (m : Moment) : Nat := ((daysBeforeYear m.year + m.dayOfYear - 1) % 7).toNat

/-- The day of the week, Sunday being zero. -/
def weekdayFromSunday (m : Moment) : Nat := (m.weekday + 1) % 7

/-- The number of the week in the year, when weeks start on Sunday and the days before the first
Sunday are in week zero. -/
def weekFromSunday (m : Moment) : Nat := (m.dayOfYear + 6 - m.weekdayFromSunday) / 7

/-- The same when weeks start on Monday. -/
def weekFromMonday (m : Moment) : Nat := (m.dayOfYear + 6 - m.weekday) / 7

/-- How many ISO weeks a year has: 53 when it starts on a Thursday, or on a Wednesday and has a
leap day. -/
def isoWeeks (year : Int) : Nat :=
  let first := (daysBeforeYear year % 7).toNat
  if first = 3 ∨ (first = 2 ∧ isLeap year) then 53 else 52

/-- The year and number of the ISO week. -/
def isoWeek (m : Moment) : Int × Nat :=
  let n := (m.dayOfYear + 9 - m.weekday) / 7
  if n = 0 then (m.year - 1, isoWeeks (m.year - 1))
  else if isoWeeks m.year < n then (m.year + 1, 1)
  else (m.year, n)

def hour12 (m : Moment) : Nat := if m.hour % 12 = 0 then 12 else m.hour % 12

def timestamp (m : Moment) : Int :=
  (daysBeforeYear m.year - daysBeforeYear 1970 + m.dayOfYear - 1) * 86400 + m.hour * 3600 +
    m.minute * 60 + m.second - m.offset

/-- The moment that lies a number of seconds, and of nanoseconds, behind the start of 1970, on a
clock that is `offset` seconds ahead of universal time. -/
def ofTimestamp (seconds : Int) (nanosecond : Nat) (offset : Int) : Moment :=
  let shifted := seconds + offset
  let days := shifted / 86400 + daysBeforeYear 1970
  let clock := (shifted % 86400).toNat
  -- The year is found from its average length, which is off by at most one.
  let guess := days * 400 / 146097 + 1
  let year :=
    if days < daysBeforeYear guess then guess - 1
    else if daysBeforeYear (guess + 1) ≤ days then guess + 1
    else guess
  let rest := (days - daysBeforeYear year).toNat
  let month := ((List.range 11).filter fun k => daysBefore year (k + 2) ≤ rest).length + 1
  { year, month
    day := rest - daysBefore year month + 1
    hour := clock / 3600
    minute := clock / 60 % 60
    second := clock % 60
    nanosecond, offset }

end Moment

end CopyFormat.Date
