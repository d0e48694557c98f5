import LineShell.Unix.Date.Zone

/-! Points in time in a form that is described by directives such as `%Y-%m-%d`. Between the sign
and the letter of a directive there may be flags, a width and a modifier. -/

namespace LineShell.Unix

open Octets

namespace DateFormat

/-- How a directive is to be filled up to its width. -/
inductive Padding
  | never
  | blanks
  | zeros
  /-- With zeros, and a sign in front of years that are longer than usual. -/
  | signed
  deriving DecidableEq, Repr

/-- What stands between the sign and the letter of a directive. -/
structure Field where
  padding : Option Padding := none
  upper : Bool := false
  /-- The other case than usual. -/
  swapped : Bool := false
  width : Option Nat := none
  modifier : Option Char := none
  deriving DecidableEq, Repr

/-- Fills a text up to the width of a field. -/
def Field.fill (f : Field) (text : Octets) : Octets :=
  match f.padding with
  | some .never => text
  | some .zeros | some .signed => text.leftpad (f.width.getD 0) '0'
  | _ => text.leftpad (f.width.getD 0) ' '

/-- A text in a field. -/
def Field.text (f : Field) (text : Octets) (swap : Char → Char := Char.toUpper) : Octets :=
  f.fill (if f.swapped then text.map swap else if f.upper then text.map Char.toUpper else text)

/-- A text in a field that has no other case than its own and capitals. -/
def Field.verbatim (f : Field) (text : Octets) : Octets := { f with swapped := false }.text text

/-- Digits in a field that are usually so many, with a sign in front if there is one. -/
def Field.digits (f : Field) (usual : Nat) (sign : Option Char) (text : Octets) : Octets :=
  let padding := f.padding.getD .zeros
  let width := f.width.getD usual
  let taken := if sign.isSome then 1 else 0
  let missing := if padding = .never then 0 else width - taken - text.length
  match sign with
  | none => { f with padding, width := some width : Field }.fill text
  | some c =>
    if padding = .blanks then List.replicate missing ' ' ++ c :: text
    else c :: (List.replicate missing '0' ++ text)

/-- A number in a field. -/
def Field.number (f : Field) (usual : Nat) (n : Int) : Octets :=
  let text := Text.ofNat n.natAbs
  if f.modifier = some 'O' then f.fill (text.leftpad usual '0')
  else f.digits usual (if n < 0 then some '-' else none) text

/-- A number in a field that is usually filled with blanks. -/
def Field.blankNumber (f : Field) (usual n : Nat) : Octets :=
  if f.modifier = some 'O' then f.fill ((Text.ofNat n).leftpad usual ' ')
  else ({ f with padding := f.padding.getD .blanks }).digits usual none (Text.ofNat n)

/-- A year or a part of one in a field. -/
def Field.year (f : Field) (usual : Nat) (n : Int) (negative : Bool := n < 0) : Octets :=
  let long := (if usual = 2 then 99 else 9999) < n.natAbs || f.width.any (usual < ·)
  let sign := if negative then some '-'
    else if f.padding = some .signed && long then some '+'
    else none
  if f.modifier.isSome then f.fill ((Text.ofNat n.natAbs).leftpad usual '0')
  else f.digits usual sign (Text.ofNat n.natAbs)

def two (n : Nat) : Octets := (Text.ofNat n).leftpad 2 '0'

/-- The hour on a clock with twelve hours. -/
def hour12 (d : Date) : Nat := if d.hour % 12 = 0 then 12 else d.hour % 12

def halfDay (d : Date) : Octets := if d.hour < 12 then "AM".toList else "PM".toList

def clock (d : Date) : Octets := two d.hour ++ ':' :: two d.minute ++ ':' :: two d.second

/-- The year that the week of a date belongs to, and the number of the week in it. Weeks start on
Monday, and the first one has the first Thursday of the year. -/
def week (d : Date) : Int × Nat :=
  let thursday := Date.dayNumber d.year d.month d.day + 3 - ((d.weekday + 6) % 7 : Nat)
  let t := Date.ofDayNumber thursday
  (t.year, t.yearDay / 7 + 1)

/-- The distance from universal time in a field; the number of colons says in which form. -/
def offset (f : Field) (l : LocalTime) (colons : Nat) : Octets :=
  let n := l.ahead.natAbs
  let (h, m, s) := (n / 3600, n / 60 % 60, n % 60)
  let sign := if l.ahead < 0 ∨ l.ahead = 0 ∧ l.name.head? = some '-' then '-' else '+'
  let minutes := Text.ofNat h ++ ':' :: two m
  let seconds := minutes ++ ':' :: two s
  if f.modifier = some 'O' ∧ l.ahead ≥ 0 then
    if colons = 0 then f.fill (sign :: two h ++ two m) else f.verbatim "%O:".toList
  else if colons = 0 then f.digits 5 (some sign) (Text.ofNat (h * 100 + m))
  else if colons = 2 ∨ colons = 3 ∧ s ≠ 0 then f.digits 9 (some sign) seconds
  else if colons = 1 ∨ m ≠ 0 then f.digits 6 (some sign) minutes
  else f.digits 3 (some sign) (Text.ofNat h)

/-- Nanoseconds in a field: as many digits as its width says, with zeros at the end cut off if there
is to be no padding. -/
def nanoseconds (f : Field) (nanos : Nat) : Octets :=
  let width := match f.width with
    | none | some 0 => 9
    | some w => w
  let digits := ((Text.ofNat nanos).leftpad 9 '0').take (min width 9)
  let short := match (digits.reverse.dropWhile (· = '0')).reverse with
    | [] => ['0']
    | ds => ds
  match f.padding with
  | some .never => short
  | some .blanks => short.rightpad width ' '
  | _ => short.rightpad width '0'

/-- What a directive stands for; none if it has no meaning. -/
def directive? (l : LocalTime) (t nanos : Int) (f : Field) (letter : Char) : Option Octets :=
  let d := l.date
  let usual := f.modifier ≠ some 'E'
  let plain := f.modifier = none
  let short := d.year.natAbs % 100
  match letter with
  | 'a' => if plain then some (f.text (d.dayName.take 3)) else none
  | 'A' => if plain then some (f.text d.dayName) else none
  | 'b' | 'h' => if usual then some (f.text (d.monthName.take 3)) else none
  | 'B' => if usual then some (f.text d.monthName) else none
  | 'c' =>
    if f.modifier = some 'O' then none
    else some (f.text (d.dayName.take 3 ++ ' ' :: d.monthName.take 3 ++ ' ' ::
      (Text.ofNat d.day).leftpad 2 ' ' ++ ' ' :: clock d ++ ' ' :: ofInt d.year)
      (if f.upper then Char.toUpper else id))
  | 'C' => some (f.year 2 (d.year.natAbs / 100) (d.year < 0))
  | 'd' => if usual then some (f.number 2 d.day) else none
  | 'D' | 'x' =>
    if letter = 'D' && !plain || f.modifier = some 'O' then none
    else
      let year : Field := { padding := if letter = 'D' then f.padding else none }
      some (f.fill (two d.month ++ '/' :: two d.day ++ '/' :: year.year 2 short))
  | 'e' => if usual then some (f.blankNumber 2 d.day) else none
  | 'F' =>
    if !plain then none
    else
      let year : Field :=
        if f.padding = none && f.width = none then { padding := some .signed, width := some 4 }
        else { padding := f.padding, width := some (f.width.getD 0 - 6) }
      some (year.year 4 d.year ++ '-' :: two d.month ++ '-' :: two d.day)
  | 'g' => if usual then some (f.year 2 ((week d).1.natAbs % 100) false) else none
  | 'G' => if usual then some (f.year 4 (week d).1) else none
  | 'H' => if usual then some (f.number 2 d.hour) else none
  | 'I' => if usual then some (f.number 2 (hour12 d)) else none
  | 'j' => if usual then some (f.number 3 (d.yearDay + 1)) else none
  | 'k' => if usual then some (f.blankNumber 2 d.hour) else none
  | 'l' => if usual then some (f.blankNumber 2 (hour12 d)) else none
  | 'm' => if usual then some (f.number 2 d.month) else none
  | 'M' => if usual then some (f.number 2 d.minute) else none
  | 'n' => some (f.fill ['\n'])
  | 'N' => if usual then some (nanoseconds f nanos.toNat) else none
  | 'p' => some (f.text (halfDay d) Char.toLower)
  | 'P' => some (f.fill ((halfDay d).map Char.toLower))
  | 'q' =>
    if f.modifier = some 'O' then some (f.verbatim "%Oq".toList)
    else some (f.number 1 ((d.month - 1) / 3 + 1))
  | 'r' => some (f.fill (two (hour12 d) ++ ':' :: two d.minute ++ ':' :: two d.second ++
      ' ' :: halfDay d))
  | 'R' => some (f.fill (two d.hour ++ ':' :: two d.minute))
  | 's' => some (({ f with modifier := none }).number 1 t)
  | 'S' => if usual then some (f.number 2 d.second) else none
  | 't' => some (f.fill ['\t'])
  | 'T' => some (f.fill (clock d))
  | 'X' => if f.modifier = some 'O' then none else some (f.fill (clock d))
  | 'u' => some (f.number 1 ((d.weekday + 6) % 7 + 1))
  | 'U' => if usual then some (f.number 2 ((d.yearDay + 7 - d.weekday) / 7)) else none
  | 'V' => if usual then some (f.number 2 (week d).2) else none
  | 'w' => if usual then some (f.number 1 d.weekday) else none
  | 'W' => if usual then some (f.number 2 ((d.yearDay + 7 - (d.weekday + 6) % 7) / 7)) else none
  | 'y' => some (f.year 2 short false)
  | 'Y' => if f.modifier = some 'O' then none else some (f.year 4 d.year)
  | 'Z' => some (f.text l.name Char.toLower)
  | _ => none

/-- Reads the flags of a directive. -/
def flags : Field → Octets → Field × Octets
  | f, '_' :: rest => flags { f with padding := some .blanks } rest
  | f, '-' :: rest => flags { f with padding := some .never } rest
  | f, '0' :: rest => flags { f with padding := some .zeros } rest
  | f, '+' :: rest => flags { f with padding := some .signed } rest
  | f, '^' :: rest => flags { f with upper := true } rest
  | f, '#' :: rest => flags { f with swapped := true } rest
  | f, rest => (f, rest)

/-- What stands between the sign and the letter of a directive. -/
def field (text : Octets) : Field × Octets :=
  let (f, rest) := flags {} text
  let ds := rest.takeWhile isDigit
  let f := if ds = [] then f else { f with width := some (min (Text.decimal ds) 0x7FFFFFFF) }
  match rest.drop ds.length with
  | 'E' :: rest => ({ f with modifier := some 'E' }, rest)
  | 'O' :: rest => ({ f with modifier := some 'O' }, rest)
  | rest => (f, rest)

/-- The longest text that is written. -/
def maxLength : Nat := 1000

/-- Writes a point in time; none if that would be too long. -/
def render? (l : LocalTime) (t nanos : Int) : Nat → Octets → Option Octets
  | 0, _ | _, [] => some []
  | fuel + 1, '%' :: text => do
    let (f, rest) := field text
    guard (f.width.getD 0 ≤ maxLength)
    -- What the directive stands for, or how much of it stands for itself.
    let between := text.length - rest.length
    let meant : (Octets × Octets) ⊕ Nat :=
      match rest with
      | [] => .inr between
      | '%' :: behind => if between = 0 then .inl (['%'], behind) else .inr between
      | letter :: behind =>
        let colons := (rest.takeWhile (· = ':')).length
        match rest.drop colons with
        | 'z' :: behind =>
          if colons ≤ 3 then .inl (offset f l colons, behind) else .inr (between + colons + 1)
        | _ => match directive? l t nanos f letter with
          | some written => .inl (written, behind)
          | none => .inr (between + 1)
    match meant with
    | .inl (written, behind) => return written ++ (← render? l t nanos fuel behind)
    | .inr shown =>
      -- The names of months take the case of their field before their modifier is looked at.
      let month := rest.head?.any (· ∈ ['b', 'B', 'h'])
      let written := { f with upper := f.upper || f.swapped && month }.verbatim
        ('%' :: text.take shown)
      return written ++ (← render? l t nanos fuel (text.drop shown))
  | fuel + 1, c :: text => do return c :: (← render? l t nanos fuel text)

/-- A point in time as clocks in a zone show it, written as a format says; none if the text is too
long. -/
def format? (zone : Zone) (t : Int) (format : Octets) : Option Octets := do
  let seconds := t.fdiv Date.nano
  let text ← render? (zone.localTime seconds) seconds (t % Date.nano) (format.length + 1) format
  if text.length ≤ maxLength then some text else none

end DateFormat

end LineShell.Unix
