import LineShell.Unix.Octets

/-! Dates of the proleptic Gregorian calendar and points in time, in seconds and nanoseconds from
the start of 1970. -/

namespace LineShell.Unix

/-- A date with a time of day. -/
structure Date where
  year : Int
  month : Nat
  day : Nat
  hour : Nat := 0
  minute : Nat := 0
  second : Nat := 0
  deriving DecidableEq, Repr

namespace Date

/-- Nanoseconds in a second. -/
def nano : Int := 1000000000

def isLeap (year : Int) : Bool := year % 4 == 0 && (year % 100 != 0 || year % 400 == 0)

def daysInMonth (year : Int) (month : Nat) : Nat :=
  if month = 2 then (if isLeap year then 29 else 28)
  else if month = 4 ∨ month = 6 ∨ month = 9 ∨ month = 11 then 30
  else 31

/-- The number of a day, counted from the start of 1970. Years are taken to begin in March, so that
a leap day is the last day of its year. -/
def dayNumber (year : Int) (month : Nat) (day : Int) : Int :=
  let year := if month ≤ 2 then year - 1 else year
  let era := year.fdiv 400
  let ofEra := year - era * 400
  let shifted : Int := if month > 2 then month - 3 else month + 9
  let ofYear := (153 * shifted + 2) / 5 + day - 1
  era * 146097 + (ofEra * 365 + ofEra / 4 - ofEra / 100 + ofYear) - 719468

/-- The date of a day. -/
def ofDayNumber (n : Int) : Date :=
  let n := n + 719468
  let era := n.fdiv 146097
  let ofEra := n - era * 146097
  let year := (ofEra - ofEra / 1460 + ofEra / 36524 - ofEra / 146096) / 365
  let ofYear := ofEra - (365 * year + year / 4 - year / 100)
  let shifted := (5 * ofYear + 2) / 153
  let month := if shifted < 10 then shifted + 3 else shifted - 9
  { year := year + era * 400 + if month ≤ 2 then 1 else 0
    month := month.toNat
    day := (ofYear - (153 * shifted + 2) / 5 + 1).toNat }

/-- The seconds from the start of 1970 to a date. -/
def seconds (d : Date) : Int :=
  dayNumber d.year d.month d.day * 86400 + d.hour * 3600 + d.minute * 60 + d.second

/-- The date of a point in time. -/
def ofSeconds (s : Int) : Date :=
  let ofDay := (s % 86400).toNat
  { ofDayNumber (s.fdiv 86400) with
    hour := ofDay / 3600, minute := ofDay / 60 % 60, second := ofDay % 60 }

/-- The seconds to a moment that is given by numbers of any size: months behind the last one belong
to later years, days behind the last one to later months, and so on. -/
def secondsOf (year month day hour minute second : Int) : Int :=
  let months := year * 12 + (month - 1)
  let days := dayNumber (months.fdiv 12) ((months % 12).toNat + 1) 1 + (day - 1)
  ((days * 24 + hour) * 60 + minute) * 60 + second

/-- The day of the week, from Sunday on. -/
def weekday (d : Date) : Nat := ((dayNumber d.year d.month d.day + 4) % 7).toNat

/-- The number of days of the year before a date. -/
def yearDay (d : Date) : Nat := (dayNumber d.year d.month d.day - dayNumber d.year 1 1).toNat

/-- Whether a date exists; a second may be one too many. -/
def isValid (d : Date) : Bool :=
  1 ≤ d.month && d.month ≤ 12 && 1 ≤ d.day && d.day ≤ daysInMonth d.year d.month &&
    d.hour ≤ 23 && d.minute ≤ 59 && d.second ≤ 60

def monthNames : List String := ["January", "February", "March", "April", "May", "June", "July",
  "August", "September", "October", "November", "December"]

def dayNames : List String := ["Sunday", "Monday", "Tuesday", "Wednesday", "Thursday", "Friday",
  "Saturday"]

/-- The name of the month. -/
def monthName (d : Date) : Octets := (monthNames.getD (d.month - 1) "").toList

/-- The name of the day of the week. -/
def dayName (d : Date) : Octets := (dayNames.getD d.weekday "").toList

/-- The year that two digits stand for. -/
def shortYear (n : Nat) : Int := if n < 69 then 2000 + n else 1900 + n

end Date

end LineShell.Unix
