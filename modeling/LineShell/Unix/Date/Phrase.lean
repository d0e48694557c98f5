import LineShell.Unix.Date.Zone
import LineShell.Unix.Numeral

/-! Points in time as people write them: dates, times of day, days of the week, zones and distances
from the present, in any order. -/

namespace LineShell.Unix

open Octets

namespace Phrase

/-- An amount of time. -/
structure Span where
  years : Int := 0
  months : Int := 0
  days : Int := 0
  hours : Int := 0
  minutes : Int := 0
  seconds : Int := 0
  nanos : Int := 0
  deriving DecidableEq, Repr

/-- Units of time. -/
inductive Unit
  | year
  | month
  /-- So many days. -/
  | days (n : Int)
  | hour
  | minute
  | second
  deriving DecidableEq, Repr

/-- The words and marks of a phrase. -/
inductive Token
  /-- A number, perhaps with a sign, and how many digits it has. -/
  | number (signed negative : Bool) (value : Int) (digits : Nat)
  /-- Seconds with a fraction. -/
  | decimal (signed : Bool) (seconds nanos : Int)
  | noon (after : Bool)
  | month (n : Nat)
  | weekday (n : Nat)
  /-- A name of the zone in use, and whether it is that of daylight saving time. -/
  | localZone (summer : Option Bool)
  /-- The letter that means the zone in use. -/
  | letterJ
  | zone (ahead : Int)
  | summerZone (ahead : Int)
  | summer
  | unit (u : Unit)
  | shift (days : Int)
  | ordinal (n : Int)
  /-- Whether what was said lies in the past. -/
  | ago (past : Bool)
  /-- The letter between a date and a time; alone, it is a zone. -/
  | letterT
  | mark (c : Char)
  /-- Nothing that has a meaning. -/
  | unknown
  deriving DecidableEq, Repr

/-- An amount of a unit. -/
def Unit.span (n : Int) : Unit → Span
  | year => { years := n }
  | month => { months := n }
  | days d => { days := n * d }
  | hour => { hours := n }
  | minute => { minutes := n }
  | second => { seconds := n }

/-- Whether an integer fits into 64 bits. -/
def isShort (n : Int) : Bool := -Numeral.maxSigned - 1 ≤ n && n ≤ Numeral.maxSigned

/-- A point in time or a span that did not get too large. -/
def Span.isShort (s : Span) : Bool :=
  Phrase.isShort s.years && Phrase.isShort s.months && Phrase.isShort s.days &&
    Phrase.isShort s.hours && Phrase.isShort s.minutes && Phrase.isShort s.seconds

/-- A span behind another one, or in front of it. -/
def Span.add (s t : Span) (sign : Int) : Span :=
  { years := s.years + sign * t.years, months := s.months + sign * t.months
    days := s.days + sign * t.days, hours := s.hours + sign * t.hours
    minutes := s.minutes + sign * t.minutes, seconds := s.seconds + sign * t.seconds
    nanos := s.nanos + sign * t.nanos }

/-! ### Words -/

def units : List (String × Unit) := [("YEAR", .year), ("MONTH", .month), ("FORTNIGHT", .days 14),
  ("WEEK", .days 7), ("DAY", .days 1), ("HOUR", .hour), ("MINUTE", .minute), ("MIN", .minute),
  ("SECOND", .second), ("SEC", .second)]

def months : List (String × Token) :=
  (Date.monthNames.map String.toUpper).zipIdx.flatMap fun (name, i) =>
    (name, .month (i + 1)) :: if name = "SEPTEMBER" then [("SEPT", .month 9)] else []

def weekdays : List (String × Token) := [("SUNDAY", .weekday 0), ("MONDAY", .weekday 1),
  ("TUESDAY", .weekday 2), ("TUES", .weekday 2), ("WEDNESDAY", .weekday 3),
  ("WEDNES", .weekday 3), ("THURSDAY", .weekday 4), ("THUR", .weekday 4), ("THURS", .weekday 4),
  ("FRIDAY", .weekday 5), ("SATURDAY", .weekday 6)]

def relatives : List (String × Token) := [("TOMORROW", .shift 1), ("YESTERDAY", .shift (-1)),
  ("TODAY", .shift 0), ("NOW", .shift 0), ("LAST", .ordinal (-1)), ("THIS", .ordinal 0),
  ("NEXT", .ordinal 1), ("FIRST", .ordinal 1), ("THIRD", .ordinal 3), ("FOURTH", .ordinal 4),
  ("FIFTH", .ordinal 5), ("SIXTH", .ordinal 6), ("SEVENTH", .ordinal 7), ("EIGHTH", .ordinal 8),
  ("NINTH", .ordinal 9), ("TENTH", .ordinal 10), ("ELEVENTH", .ordinal 11),
  ("TWELFTH", .ordinal 12), ("AGO", .ago true), ("HENCE", .ago false)]

/-- Zones by name, with their distances from universal time in minutes and whether they are zones of
daylight saving time, which adds an hour. -/
def zones : List (String × Int × Bool) := [("WET", 0, false), ("WEST", 0, true),
  ("BST", 0, true), ("ART", -180, false), ("BRT", -180, false), ("BRST", -180, true),
  ("NST", -210, false), ("NDT", -210, true), ("AST", -240, false), ("ADT", -240, true),
  ("CLT", -240, false), ("CLST", -240, true), ("EST", -300, false), ("EDT", -300, true),
  ("CST", -360, false), ("CDT", -360, true), ("MST", -420, false), ("MDT", -420, true),
  ("PST", -480, false), ("PDT", -480, true), ("AKST", -540, false), ("AKDT", -540, true),
  ("HST", -600, false), ("HAST", -600, false), ("HADT", -600, true), ("SST", -720, false),
  ("WAT", 60, false), ("CET", 60, false), ("CEST", 60, true), ("MET", 60, false),
  ("MEZ", 60, false), ("MEST", 60, true), ("MESZ", 60, true), ("EET", 120, false),
  ("EEST", 120, true), ("CAT", 120, false), ("SAST", 120, false), ("EAT", 180, false),
  ("MSK", 180, false), ("MSD", 180, true), ("IST", 330, false), ("SGT", 480, false),
  ("KST", 540, false), ("JST", 540, false), ("GST", 600, false), ("NZST", 720, false),
  ("NZDT", 720, true)]

/-- The zones that single letters stand for, an hour from each to the next. -/
def letterZone? (c : Char) : Option Token :=
  let n : Int := c.toNat
  if c = 'T' then some .letterT
  else if c = 'J' then some .letterJ
  else if c = 'Z' then some (.zone 0)
  else if 'A' ≤ c ∧ c ≤ 'I' then some (.zone ((n - 64) * 3600))
  else if 'K' ≤ c ∧ c ≤ 'M' then some (.zone ((n - 65) * 3600))
  else if 'N' ≤ c ∧ c ≤ 'Y' then some (.zone ((77 - n) * 3600))
  else none

/-- The names of the zone in use around a point in time. -/
def localNames (zone : Zone) (now : Int) : List (Octets × Option Bool) :=
  let present := zone.localTime now
  let other := [1, 2, 3].findSome? fun quarter : Int =>
    let l := zone.localTime (now + quarter * 7776000)
    if l.isSummer ≠ present.isSummer then some l else none
  match other with
  | none => [(present.name, some present.isSummer)]
  | some l =>
    if l.name = present.name then [(l.name, none)]
    else [(present.name, some present.isSummer), (l.name, some l.isSummer)]

/-- The zone that a word in capital letters names. -/
def zone? (names : List (Octets × Option Bool)) (word : Octets) : Option Token :=
  if word ∈ ["GMT".toList, "UT".toList, "UTC".toList] then some (.zone 0)
  else
    match names.lookup word with
    | some summer => some (.localZone summer)
    | none => (zones.find? fun (name, _) => name.toList = word).map fun (_, minutes, summer) =>
      if summer then .summerZone (minutes * 60) else .zone (minutes * 60)

/-- A letter as a capital one. -/
def capital (c : Char) : Char :=
  if 97 ≤ c.toNat ∧ c.toNat ≤ 122 then Char.ofNat (c.toNat - 32) else c

/-- What a word means. -/
def word (names : List (Octets × Option Bool)) (text : Octets) : Token :=
  let w := (text.take 19).map capital
  let listed (table : List (String × Token)) : Option Token :=
    (table.find? fun (name, _) => name.toList = w).map (·.2)
  let isShort := w.length = 3 || w.length = 4 && w.getLast? = some '.'
  let unit (w : Octets) : Option Token :=
    (units.find? fun (name, _) => name.toList = w).map fun (_, u) => .unit u
  let found : Option Token :=
    listed [("AM", .noon false), ("A.M.", .noon false), ("PM", .noon true), ("P.M.", .noon true)]
    <|> ((months ++ weekdays).find? fun (name, _) =>
        if isShort then name.toList.take 3 = w.take 3 else name.toList = w).map (·.2)
    <|> zone? names w
    <|> (if w = "DST".toList then some .summer else none)
    <|> unit w
    <|> (if w.getLast? = some 'S' then unit w.dropLast else none)
    <|> listed relatives
    <|> (match w with
        | [c] => letterZone? c
        | _ => none)
    <|> (if '.' ∈ w then zone? names (w.filter (· ≠ '.')) else none)
  found.getD .unknown

/-- What stands behind a comment in parentheses, which may hold others. -/
def skipComment : Nat → Octets → Octets
  | _, [] => []
  | depth, '(' :: rest => skipComment (depth + 1) rest
  | depth, ')' :: rest => if depth ≤ 1 then rest else skipComment (depth - 1) rest
  | depth, _ :: rest => skipComment depth rest

/-- Seconds with the digits of a fraction behind them; a fraction that is cut off is rounded down.
-/
def decimal (signed negative : Bool) (value : Int) (digits : Octets) : Token :=
  let nanos : Int := Text.decimal ((digits.take 9).rightpad 9 '0')
  if negative then
    let nanos := if (digits.drop 9).any (· ≠ '0') then nanos + 1 else nanos
    if nanos = 0 then .decimal signed value 0 else .decimal signed (value - 1) (Date.nano - nanos)
  else .decimal signed value nanos

/-- Reads a number without its sign, and answers with what follows. -/
def number (signed negative : Bool) (text : Octets) : Token × Octets :=
  let ds := text.takeWhile isDigit
  let rest := text.drop ds.length
  let value : Int := if negative then -(Text.decimal ds : Int) else Text.decimal ds
  if !isShort value then (.unknown, rest)
  else
    let fraction := (rest.drop 1).takeWhile isDigit
    if (rest.head? = some '.' ∨ rest.head? = some ',') ∧ fraction ≠ [] then
      (decimal signed negative value fraction, rest.drop (1 + fraction.length))
    else (.number signed negative value ds.length, rest)

/-- The words and marks of a text. -/
def tokens (names : List (Octets × Option Bool)) : Nat → Octets → List Token
  | 0, _ | _, [] => []
  | fuel + 1, c :: cs =>
    if isSpace c then tokens names fuel cs
    else if isDigit c then
      let (token, rest) := number false false (c :: cs)
      token :: tokens names fuel rest
    else if c = '-' ∨ c = '+' then
      let rest := cs.dropWhile isSpace
      if rest.head?.any isDigit then
        let (token, rest) := number true (c = '-') rest
        token :: tokens names fuel rest
      else tokens names fuel rest
    else if isLetter c then
      let w := (c :: cs).takeWhile fun d => isLetter d || d == '.'
      word names w :: tokens names fuel ((c :: cs).drop w.length)
    else if c = '(' then tokens names fuel (skipComment 1 cs)
    else .mark c :: tokens names fuel cs

/-! ### Sentences -/

/-- What a phrase has said so far. -/
structure Reading where
  year : Int
  /-- The digits that the year was written with; none if it was not written. -/
  yearDigits : Nat := 0
  month : Int
  day : Int
  hour : Int
  minute : Int
  second : Int
  nanos : Int
  /-- Whether the hour is one of twelve, and if so of which half of the day. -/
  afternoon : Option Bool := none
  ordinal : Int := 0
  weekday : Nat := 0
  ahead : Int := 0
  summer : Option Bool := none
  span : Span := {}
  relative : Bool := false
  /-- How many of each kind were there. -/
  dates : Nat := 0
  times : Nat := 0
  weekdays : Nat := 0
  summers : Nat := 0
  localZones : Nat := 0
  zones : Nat := 0

namespace Reading

/-- Goes so far from the present. -/
def move (r : Reading) (s : Span) (sign : Int := 1) : Option Reading :=
  let span := r.span.add s sign
  if span.isShort then some { r with span, relative := true } else none

/-- Takes a date. -/
def takeDate (r : Reading) (month day : Int) (year : Option (Int × Nat) := none) : Reading :=
  let (year, yearDigits) := year.getD (r.year, r.yearDigits)
  { r with month, day, year, yearDigits, dates := r.dates + 1 }

/-- Takes a time of day. -/
def takeTime (r : Reading) (hour minute : Int) (second nanos : Int := 0)
    (afternoon : Option Bool := none) : Reading :=
  { r with hour, minute, second, nanos, afternoon, times := r.times + 1 }

/-- Takes a number that stands alone. -/
def takeNumber (r : Reading) (value : Int) (digits : Nat) : Reading :=
  if r.dates > 0 && r.yearDigits = 0 && !r.relative && (r.times > 0 || digits > 2) then
    { r with year := value, yearDigits := digits }
  else if digits > 4 then
    r.takeDate (value / 100 % 100) (value % 100) (some (value / 10000, digits - 4))
  else if digits ≤ 2 then r.takeTime value 0
  else r.takeTime (value / 100) (value % 100)

/-- The distance that a number means behind a zone or a time, perhaps with minutes behind it. -/
def distance? (value : Int) (negative : Bool) (digits : Nat) (minutes : Option Int) : Option Int :=
  let value := if digits ≤ 2 && minutes.isNone then value * 100 else value
  let n := match minutes with
    | none => value.tdiv 100 * 60 + value.tmod 100
    | some m => value * 60 + if negative then -m else m
  if -1440 ≤ n ∧ n ≤ 1440 then some (n * 60) else none

/-- Takes a zone by its distance from universal time. -/
def takeZone (r : Reading) (ahead : Int) : Reading := { r with ahead, zones := r.zones + 1 }

/-- Reads minutes behind a colon. -/
def minutes : List Token → Option (Option Int × List Token)
  | .mark ':' :: .number false _ m _ :: rest => some (some m, rest)
  | .mark ':' :: _ => none
  | rest => some (none, rest)

/-- Reads a zone behind a time, if one comes. -/
def zoneBehind (r : Reading) : List Token → Option (Reading × List Token)
  | .number true negative value digits :: rest => do
    let (m, rest) ← minutes rest
    return (r.takeZone (← distance? value negative digits m), rest)
  | rest => some (r, rest)

/-- Reads what comes behind the hour of a time and a colon. -/
def timeBehind (r : Reading) (hour : Int) : List Token → Option (Reading × List Token)
  | .number false _ m _ :: .mark ':' :: .number false _ s _ :: rest => finish m s 0 rest
  | .number false _ m _ :: .mark ':' :: .decimal false s nanos :: rest => finish m s nanos rest
  | .number false _ _ _ :: .mark ':' :: _ => none
  | .number false _ m _ :: rest => finish m 0 0 rest
  | _ => none
where
  /-- Reads what comes behind a time. -/
  finish (m s nanos : Int) : List Token → Option (Reading × List Token)
    | .noon after :: rest => some (r.takeTime hour m s nanos (some after), rest)
    | rest => (r.takeTime hour m s nanos).zoneBehind rest

/-- Reads the time behind a date and the letter between them. -/
def timeOfDate (r : Reading) : List Token → Option (Reading × List Token)
  | .letterT :: .number false _ hour _ :: .mark ':' :: rest => do
    let (after, rest') ← r.timeBehind hour rest
    if after.afternoon.isSome then none else some (after, rest')
  | .letterT :: .number false _ hour _ :: .number true negative value digits :: rest =>
    (r.takeTime hour 0).zoneBehind (.number true negative value digits :: rest)
  | .letterT :: _ => none
  | rest => some (r, rest)

/-- Goes so far from the present, or back if a word behind that says so. -/
def moveBy (r : Reading) (s : Span) : List Token → Option (Reading × List Token)
  | .ago past :: rest => (r.move s (if past then -1 else 1)).map (·, rest)
  | rest => (r.move s).map (·, rest)

/-- Reads what begins with a number. -/
def number (r : Reading) (value : Int) (digits : Nat) : List Token → Option (Reading × List Token)
  | .noon after :: rest => some (r.takeTime value 0 0 0 (some after), rest)
  | .mark ':' :: rest => r.timeBehind value rest
  | .mark '/' :: .number false _ m _ :: .mark '/' :: .number false _ n ds :: rest =>
    some (if digits ≥ 4 then r.takeDate m n (some (value, digits))
      else r.takeDate value m (some (n, ds)), rest)
  | .mark '/' :: .number false _ _ _ :: .mark '/' :: _ => none
  | .mark '/' :: .number false _ m _ :: rest => some (r.takeDate value m, rest)
  | .mark '/' :: _ => none
  | .month m :: .number true _ y ds :: rest => some (r.takeDate m value (some (-y, ds)), rest)
  | .month m :: .number false _ y ds :: rest => some (r.takeDate m value (some (y, ds)), rest)
  | .month m :: rest => some (r.takeDate m value, rest)
  | .weekday n :: rest =>
    some ({ r with ordinal := value, weekday := n, weekdays := r.weekdays + 1 }, rest)
  | .unit u :: rest => r.moveBy (u.span value) rest
  | .number true _ m _ :: .number true _ d _ :: rest =>
    (r.takeDate (-m) (-d) (some (value, digits))).timeOfDate rest
  | .number true _ n _ :: .unit u :: rest =>
    ((r.takeNumber value digits).move (u.span n)).map (·, rest)
  | .number true negative n ds :: rest =>
    (r.takeTime value 0).zoneBehind (.number true negative n ds :: rest)
  | rest => some (r.takeNumber value digits, rest)

/-- Reads what comes behind a zone. -/
def behindZone (r : Reading) (ahead : Int) (full : Bool) :
    List Token → Option (Reading × List Token)
  | .number true _ n _ :: .unit u :: rest => ((r.takeZone ahead).move (u.span n)).map (·, rest)
  | .number true negative value digits :: rest =>
    if full then do
      let (m, rest) ← minutes rest
      return (r.takeZone (ahead + (← distance? value negative digits m)), rest)
    else some (r.takeZone ahead, .number true negative value digits :: rest)
  | .summer :: rest =>
    if full then some (r.takeZone (ahead + 3600), rest)
    else some (r.takeZone ahead, .summer :: rest)
  | rest => some (r.takeZone ahead, rest)

/-- Reads one part of a phrase, and answers with the rest. -/
def item (r : Reading) : List Token → Option (Reading × List Token)
  | .number false _ value digits :: rest => r.number value digits rest
  | .localZone _ :: .summer :: rest =>
    some ({ r with
      summer := some true, summers := r.summers + 1, localZones := r.localZones + 1 }, rest)
  | .letterJ :: rest => some ({ r with localZones := r.localZones + 1 }, rest)
  | .localZone summer :: rest => some ({ r with summer, localZones := r.localZones + 1 }, rest)
  | .zone ahead :: rest => r.behindZone ahead true rest
  | .letterT :: rest => r.behindZone (-25200) false rest
  | .summerZone ahead :: rest => some (r.takeZone (ahead + 3600), rest)
  | .weekday n :: .mark ',' :: rest | .weekday n :: rest =>
    some ({ r with ordinal := 0, weekday := n, weekdays := r.weekdays + 1 }, rest)
  | .ordinal n :: .weekday d :: rest =>
    some ({ r with ordinal := n, weekday := d, weekdays := r.weekdays + 1 }, rest)
  | .ordinal n :: .unit u :: rest => r.moveBy (u.span n) rest
  | .month m :: .number true _ d _ :: .number true _ y ds :: rest =>
    some (r.takeDate m (-d) (some (-y, ds)), rest)
  | .month m :: .number false _ d _ :: .mark ',' :: .number false _ y ds :: rest =>
    some (r.takeDate m d (some (y, ds)), rest)
  | .month _ :: .number false _ _ _ :: .mark ',' :: _ => none
  | .month m :: .number false _ d _ :: rest => some (r.takeDate m d, rest)
  | .unit u :: rest => r.moveBy (u.span 1) rest
  | .number true _ n _ :: .unit u :: rest => r.moveBy (u.span n) rest
  | .decimal _ s nanos :: .unit .second :: rest => r.moveBy { seconds := s, nanos } rest
  | .shift n :: rest => (r.move { days := n }).map (·, rest)
  | _ => none

/-- Reads all parts of a phrase. -/
def items : Nat → Reading → List Token → Option Reading
  | _, r, [] => some r
  | 0, _, _ => none
  | fuel + 1, r, tokens => do
    let (r, rest) ← r.item tokens
    items fuel r rest

/-- The hour of the day; there is none if the hour is out of range. -/
def hourOfDay? (r : Reading) : Option Int :=
  match r.afternoon with
  | none => if 0 ≤ r.hour ∧ r.hour < 24 then some r.hour else none
  | some after =>
    let late : Int := if after then 12 else 0
    if 0 < r.hour ∧ r.hour < 12 then some (r.hour + late)
    else if r.hour = 12 then some late
    else none

/-- The year in full. -/
def fullYear (r : Reading) : Int :=
  if r.year < 0 then -r.year
  else if r.yearDigits = 2 then Date.shortYear r.year.toNat
  else r.year

/-- Whether an integer fits into 32 bits. -/
def isInt (n : Int) : Bool := -0x80000000 ≤ n && n ≤ 0x7FFFFFFF

/-- The point in time that was meant, in nanoseconds. -/
def resolve? (r : Reading) (zone : Zone) (now : LocalTime) : Option Int := do
  guard ((r.times ||| r.dates ||| r.weekdays ||| r.summers ||| (r.localZones + r.zones)) ≤ 1)
  let absolute := r.dates > 0 || r.weekdays > 0 || r.times > 0
  let timed := r.times > 0 || r.relative && r.dates = 0 && r.weekdays = 0
  let hour ← if timed then r.hourOfDay? else some 0
  let (minute, second, nanos) := if timed then (r.minute, r.second, r.nanos) else (0, 0, 0)
  let year := r.fullYear
  guard (isInt (year - 1900) && isInt (r.month - 1) && isInt r.day && isInt minute && isInt second)
  let summer := if r.localZones > 0 then r.summer
    else if absolute then none
    else some now.isSummer
  let shown (d : Date) : Int := d.seconds
  let wanted := Date.secondsOf year r.month r.day hour minute second
  let exact : Date := ⟨year, r.month.toNat, r.day.toNat, hour.toNat, minute.toNat, second.toNat⟩
  let plain := exact.isValid && second < 60 && r.month ≥ 1 && r.day ≥ 1
  guard plain
  let start := zone.universal wanted summer
  let met := (zone.localTime start).date = exact
  guard (met || r.zones > 0 && summer ≠ some true)
  -- Clocks that jumped over the time are replaced by those of the zone that was named.
  let (start, ahead) := if met then (start, zone.aheadAt start) else (wanted - r.ahead, r.ahead)
  let (start, ahead, date) ←
    if r.weekdays > 0 && r.dates = 0 then do
      let date : Date := if met then (zone.localTime start).date else exact
      let weeks := r.ordinal - if r.ordinal > 0 && date.weekday ≠ r.weekday then 1 else 0
      let days := (((r.weekday : Int) - date.weekday + 7) % 7) + weeks * 7
      guard (isInt (days + date.day))
      let start := zone.universal (shown date + days * 86400) none
      some (start, zone.aheadAt start, (zone.localTime start).date)
    else some (start, ahead, exact)
  let s := r.span
  let (start, ahead) ←
    if s.years ≠ 0 || s.months ≠ 0 || s.days ≠ 0 then do
      let year := date.year + s.years
      let month := date.month + s.months
      let day := date.day + s.days
      guard (isInt (year - 1900) && isInt (month - 1) && isInt day)
      let start := zone.universal (Date.secondsOf year month day hour minute second) summer
      guard (isInt ((zone.localTime start).date.year - 1900))
      some (start, zone.aheadAt start)
    else some (start, ahead)
  let start := if r.zones > 0 then start - (r.ahead - ahead) else start
  let total := (start + s.hours * 3600 + s.minutes * 60 + s.seconds) * Date.nano + nanos + s.nanos
  guard (isShort (total.fdiv Date.nano))
  return total

end Reading

/-- Reads a phrase without a zone in front of it. -/
def ofTokens? (zone : Zone) (now : Int) (tokens : List Token) : Option Int :=
  match tokens with
  | [.mark '@', .number _ _ s _] => some (s * Date.nano)
  | [.mark '@', .decimal _ s nanos] => some (s * Date.nano + nanos)
  | _ => do
    let present := zone.localTime (now.fdiv Date.nano)
    let start : Reading := {
      year := present.date.year, month := present.date.month, day := present.date.day
      hour := present.date.hour, minute := present.date.minute, second := present.date.second
      nanos := now % Date.nano }
    (← Reading.items (tokens.length + 1) start tokens).resolve? zone present

/-- The inside of double quotes, and what follows them. -/
def quoted? : Octets → Option (Octets × Octets)
  | '\\' :: c :: rest =>
    if c = '\\' ∨ c = '"' then (quoted? rest).map fun (inside, rest) => (c :: inside, rest)
    else none
  | '"' :: rest => some ([], rest)
  | c :: rest => (quoted? rest).map fun (inside, rest) => (c :: inside, rest)
  | [] => none

/-- Reads a phrase; a zone may stand in front of it. An empty phrase is today at midnight. -/
def read? (zone : Zone) (now : Int) (text : Octets) : Option Int :=
  let text := text.dropWhile isSpace
  let (zone, text) := match after? "TZ=\"".toList text with
    | some rest =>
      match quoted? rest with
      | some (name, rest) => (Zone.ofSetting (some name), rest.dropWhile isSpace)
      | none => (zone, text)
    | none => (zone, text)
  let text := if text = [] then ['0'] else text
  ofTokens? zone now (tokens (localNames zone (now.fdiv Date.nano)) (text.length + 1) text)

end Phrase

end LineShell.Unix
