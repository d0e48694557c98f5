import LineShell.Unix.Date

/-! Time zones: how far local time is ahead of universal time, and when it is daylight saving time.
A zone is described by its names, its distances from universal time and two rules, as in
`EST5EDT,M3.2.0,M11.1.0`. -/

namespace LineShell.Unix

open Octets

/-- A day of every year. -/
inductive YearDay
  /-- A day of the year from 1 on; a leap day is not counted. -/
  | julian (n : Nat)
  /-- A day of the year from 0 on. -/
  | plain (n : Nat)
  /-- A day of some week of a month; week 5 is the last one. -/
  | week (month number weekday : Nat)
  deriving DecidableEq, Repr

/-- A time that comes once a year: a day and the seconds from its start. -/
structure Turn where
  day : YearDay
  seconds : Int := 7200
  deriving DecidableEq, Repr

/-- Daylight saving time: its name, by how much it is ahead, and when it starts and ends. -/
structure Summer where
  name : Octets
  ahead : Int
  start : Turn
  stop : Turn
  deriving DecidableEq, Repr

/-- A time zone. Distances are in seconds, positive to the east. -/
structure Zone where
  name : Octets := "UTC".toList
  ahead : Int := 0
  summer : Option Summer := none
  deriving DecidableEq, Repr

/-- A moment as clocks in a zone show it. -/
structure LocalTime where
  date : Date
  ahead : Int
  isSummer : Bool
  name : Octets
  deriving DecidableEq, Repr

/-- The day of a year, by number. -/
def YearDay.dayNumber (year : Int) : YearDay → Int
  | .julian n => Date.dayNumber year 1 n + if n ≥ 60 && Date.isLeap year then 1 else 0
  | .plain n => Date.dayNumber year 1 1 + n
  | .week month number weekday =>
    let first := Date.dayNumber year month 1
    let skipped := ((weekday : Int) - (first + 4)) % 7
    let day := skipped + 7 * ((number : Int) - 1)
    let days := Date.daysInMonth year month
    first + if day ≥ days then day - 7 else day

/-- The second of a year at which clocks turn that were ahead by so much. -/
def Turn.inYear (t : Turn) (year : Int) (ahead : Int) : Int :=
  t.day.dayNumber year * 86400 + t.seconds - ahead

namespace Zone

/-- Whether daylight saving time is in force. -/
def isSummer (z : Zone) (t : Int) : Bool :=
  match z.summer with
  | none => false
  | some s =>
    let year := (Date.ofSeconds t).year
    let start := s.start.inYear year z.ahead
    let stop := s.stop.inYear year s.ahead
    if start > stop then t < stop || t ≥ start else start ≤ t && t < stop

/-- A point in time as clocks show it. -/
def localTime (z : Zone) (t : Int) : LocalTime :=
  let standard : LocalTime := ⟨Date.ofSeconds (t + z.ahead), z.ahead, false, z.name⟩
  match z.summer with
  | some s =>
    if z.isSummer t then ⟨Date.ofSeconds (t + s.ahead), s.ahead, true, s.name⟩ else standard
  | none => standard

/-- How far clocks are ahead. -/
def aheadAt (z : Zone) (t : Int) : Int :=
  match z.summer with
  | some s => if z.isSummer t then s.ahead else z.ahead
  | none => z.ahead

/-- The longest search for another time of the year, in seconds. -/
def searchLimit : Nat := 536454000 / 2 + 601200

/-- The distance from universal time at a time near another one, at which it is daylight saving time
or not, as asked for. -/
def nearby (z : Zone) (t : Int) (summer : Bool) : Option Int :=
  let tries : List Int := (List.range (searchLimit / 601200)).flatMap fun k : Nat =>
    let delta : Int := 601200 * ((k : Int) + 1)
    [t - delta, t + delta]
  (tries.find? fun u => z.isSummer u == summer).map z.aheadAt

/-- Looks for a point in time at which clocks show `shown`, given in seconds as if there were no
zones. The search goes from one candidate to the next; where clocks have jumped over `shown` it
would go back and forth between two. -/
def search (z : Zone) (shown : Int) (summer : Option Bool) :
    Nat → Int → Int → Int → Bool → Int × Bool
  | 0, t, _, _, _ => (t, true)
  | fuel + 1, t, before, earlier, summerBefore =>
    let next := shown - z.aheadAt t
    if next = t then (t, true)
    else
      let now := z.isSummer t
      let stuck := t = before && t ≠ earlier &&
        match summer with
        | none => !summerBefore || now
        | some wanted => wanted != now
      if stuck then (t, false) else z.search shown summer fuel next t before now

/-- The point in time at which clocks show `shown`. If it is known whether that is daylight saving
time and clocks say otherwise, they are taken to be wrong. -/
def universal (z : Zone) (shown : Int) (summer : Option Bool := none) : Int :=
  let (t, settled) := z.search shown summer 6 shown shown shown false
  match summer with
  | none => t
  | some wanted =>
    if settled && z.isSummer t ≠ wanted then (z.nearby t wanted).elim t (shown - ·) else t

/-- A number of at most so many digits. -/
def short? (limit : Nat) (text : Octets) : Option (Nat × Octets) :=
  let (n, rest) := digitsUpTo 10 limit 0 text
  if rest.length < text.length then some (n, rest) else none

/-- Reads hours, minutes and seconds with a sign; each of them counts no more than so much. -/
def span? (hours minutes seconds : Nat) (text : Octets) : Option (Int × Octets) := do
  let (negative, text) := match text with
    | '-' :: rest => (true, rest)
    | '+' :: rest => (false, rest)
    | _ => (false, text)
  let (h, text) ← short? 5 text
  let part (text : Octets) : Nat × Octets :=
    match text with
    | ':' :: rest => (short? 5 rest).getD (0, text)
    | _ => (0, text)
  let (m, text) := part text
  let (s, text) := part text
  let n : Int := min h hours * 3600 + min m minutes * 60 + min s seconds
  return (if negative then -n else n, text)

/-- Reads by how much a zone is behind universal time. -/
def west? (text : Octets) : Option (Int × Octets) := span? 24 59 59 text

/-- Reads the name of a zone. -/
def name? (text : Octets) : Option (Octets × Octets) :=
  match text with
  | '<' :: rest =>
    let name := rest.takeWhile fun c => isLetter c || isDigit c || c == '+' || c == '-'
    match rest.drop name.length with
    | '>' :: rest => if name.length ≥ 3 then some (name, rest) else none
    | _ => none
  | _ =>
    let name := text.takeWhile isLetter
    if name.length ≥ 3 then some (name, text.drop name.length) else none

/-- Reads when clocks turn. -/
def turn? (text : Octets) : Option (Turn × Octets) := do
  let (day, text) ← match text with
    | 'J' :: rest => do
      let (n, rest) ← short? 5 rest
      guard (1 ≤ n ∧ n ≤ 365)
      some (YearDay.julian n, rest)
    | 'M' :: rest => do
      let (month, rest) ← short? 5 rest
      let (week, rest) ← short? 5 (← after? ['.'] rest)
      let (weekday, rest) ← short? 5 (← after? ['.'] rest)
      guard (1 ≤ month ∧ month ≤ 12 ∧ 1 ≤ week ∧ week ≤ 5 ∧ weekday ≤ 6)
      some (YearDay.week month week weekday, rest)
    | _ => do
      let (n, rest) ← short? 5 text
      guard (n ≤ 365)
      some (YearDay.plain n, rest)
  match text with
  | '/' :: rest =>
    match span? 167 65535 65535 rest with
    | some (seconds, rest) => some (⟨day, seconds⟩, rest)
    | none => some (⟨day, 7200⟩, rest)
  | _ => some (⟨day, 7200⟩, text)

/-- When clocks turn unless a zone says otherwise. -/
def usualTurns : Turn × Turn := (⟨.week 3 2 0, 7200⟩, ⟨.week 11 1 0, 7200⟩)

/-- Reads the description of a zone. Without a distance from universal time there is none. -/
def ofDescription (text : Octets) : Zone :=
  match name? text with
  | none => { name := [] }
  | some (name, rest) =>
    match west? rest with
    | none => { name }
    | some (west, rest) =>
      match name? rest with
      | none => { name, ahead := -west }
      | some (summerName, rest) =>
        let (ahead, rest) := match west? rest with
          | some (west, rest) => (-west, rest)
          | none => (3600 - west, rest)
        let turns := do
          let (start, rest) ← turn? (← after? [','] rest)
          let (stop, _) ← turn? (← after? [','] rest)
          return (start, stop)
        let (start, stop) := turns.getD usualTurns
        { name, ahead := -west, summer := some ⟨summerName, ahead, start, stop⟩ }

/-- Zones that are known by name, with their descriptions. -/
def known : List (String × String) := [
  ("UTC", "UTC0"), ("UCT", "UTC0"), ("Universal", "UTC0"), ("Zulu", "UTC0"), ("Etc/UTC", "UTC0"),
  ("GMT", "GMT0"), ("GMT0", "GMT0"), ("Etc/GMT", "GMT0"), ("Greenwich", "GMT0"),
  ("EST", "EST5"), ("MST", "MST7"), ("HST", "HST10"), ("WET", "WET0WEST,M3.5.0/1,M10.5.0"),
  ("CET", "CET-1CEST,M3.5.0,M10.5.0/3"), ("MET", "MET-1MEST,M3.5.0,M10.5.0/3"),
  ("EET", "EET-2EEST,M3.5.0/3,M10.5.0/4"), ("Europe/London", "GMT0BST,M3.5.0/1,M10.5.0"),
  ("Europe/Dublin", "GMT0IST,M3.5.0/1,M10.5.0"), ("Europe/Lisbon", "WET0WEST,M3.5.0/1,M10.5.0"),
  ("Europe/Berlin", "CET-1CEST,M3.5.0,M10.5.0/3"), ("Europe/Paris", "CET-1CEST,M3.5.0,M10.5.0/3"),
  ("Europe/Madrid", "CET-1CEST,M3.5.0,M10.5.0/3"), ("Europe/Rome", "CET-1CEST,M3.5.0,M10.5.0/3"),
  ("Europe/Vienna", "CET-1CEST,M3.5.0,M10.5.0/3"), ("Europe/Zurich", "CET-1CEST,M3.5.0,M10.5.0/3"),
  ("Europe/Amsterdam", "CET-1CEST,M3.5.0,M10.5.0/3"), ("Europe/Moscow", "MSK-3"),
  ("Europe/Athens", "EET-2EEST,M3.5.0/3,M10.5.0/4"),
  ("Europe/Helsinki", "EET-2EEST,M3.5.0/3,M10.5.0/4"), ("Asia/Tokyo", "JST-9"), ("Japan", "JST-9"),
  ("Asia/Seoul", "KST-9"), ("Asia/Shanghai", "CST-8"), ("Asia/Hong_Kong", "HKT-8"),
  ("Asia/Singapore", "<+08>-8"), ("Asia/Kolkata", "IST-5:30"), ("Asia/Calcutta", "IST-5:30"),
  ("Asia/Kathmandu", "<+0545>-5:45"), ("Asia/Dubai", "<+04>-4"),
  ("America/New_York", "EST5EDT,M3.2.0,M11.1.0"), ("US/Eastern", "EST5EDT,M3.2.0,M11.1.0"),
  ("America/Chicago", "CST6CDT,M3.2.0,M11.1.0"), ("US/Central", "CST6CDT,M3.2.0,M11.1.0"),
  ("America/Denver", "MST7MDT,M3.2.0,M11.1.0"), ("US/Mountain", "MST7MDT,M3.2.0,M11.1.0"),
  ("America/Los_Angeles", "PST8PDT,M3.2.0,M11.1.0"), ("US/Pacific", "PST8PDT,M3.2.0,M11.1.0"),
  ("America/Phoenix", "MST7"), ("America/Toronto", "EST5EDT,M3.2.0,M11.1.0"),
  ("America/Sao_Paulo", "<-03>3"), ("America/St_Johns", "NST3:30NDT,M3.2.0,M11.1.0"),
  ("Pacific/Honolulu", "HST10"), ("Australia/Sydney", "AEST-10AEDT,M10.1.0,M4.1.0/3"),
  ("Australia/Melbourne", "AEST-10AEDT,M10.1.0,M4.1.0/3"), ("Australia/Brisbane", "AEST-10"),
  ("Australia/Perth", "AWST-8"), ("Pacific/Auckland", "NZST-12NZDT,M9.5.0,M4.1.0/3")]

/-- The zone that an environment variable asks for. -/
def ofSetting (text : Option Octets) : Zone :=
  match text with
  | none | some [] => {}
  | some text =>
    let text := (after? [':'] text).getD text
    match known.find? fun (name, _) => name.toList = text with
    | some (_, description) => ofDescription description.toList
    | none => ofDescription text

end Zone

end LineShell.Unix
