import LineShell.Unix.Numeral

/-! Binary floating-point numbers of some precision, read from texts and written in the notations of
C. All arithmetic is exact; roundings go to the nearest number, and a tie goes to the even one. -/

namespace LineShell.Unix

open Octets

/-- A floating-point format: the number of bits, and the exponents of the last bit. -/
structure FloatFormat where
  bits : Nat
  minExponent : Int
  maxExponent : Int
  deriving DecidableEq, Repr

namespace FloatFormat

/-- Numbers of 64 bits. -/
def double : FloatFormat := ⟨53, -1074, 971⟩

/-- Numbers of 80 bits. -/
def extended : FloatFormat := ⟨64, -16445, 16320⟩

end FloatFormat

/-- The size of a number. -/
inductive Magnitude
  /-- A whole number times a power of two. -/
  | finite (mantissa : Nat) (exponent : Int)
  | infinite
  | undefined
  deriving DecidableEq, Repr

/-- A number with its sign. -/
structure Floating where
  negative : Bool
  size : Magnitude
  deriving DecidableEq, Repr

/-- What was read off the start of a text. -/
structure FloatReading where
  value : Floating
  rest : Octets
  outOfRange : Bool
  /-- Whether there was a number at all. -/
  found : Bool
  deriving DecidableEq, Repr

namespace Floating

/-- A quotient to the nearest whole number; a tie goes to the even one. -/
def roundDiv (n d : Nat) : Nat :=
  let q := n / d
  let r := 2 * (n % d)
  if r > d ∨ r = d ∧ q % 2 = 1 then q + 1 else q

/-- A quotient times a power of a base, as a quotient. -/
def scale (base n d : Nat) (e : Int) : Nat × Nat :=
  if e ≥ 0 then (n * base.pow e.toNat, d) else (n, d * base.pow e.natAbs)

/-- The number of a format that is nearest to a quotient, and whether the quotient is out of
range. -/
def ofQuotient (f : FloatFormat) (n d : Nat) : Magnitude × Bool :=
  if n = 0 then (.finite 0 0, false)
  else
    let estimate : Int := (n.log2 : Int) - d.log2 - f.bits
    let fit (e : Int) : Nat :=
      let (a, b) := scale 2 n d (-e)
      roundDiv a b
    let e := if fit (estimate + 1) ≥ Nat.pow 2 (f.bits - 1) ∧ fit estimate ≥ Nat.pow 2 f.bits
      then estimate + 1 else estimate
    let e := max e f.minExponent
    let m := fit e
    let (m, e) := if m ≥ Nat.pow 2 f.bits then (m / 2, e + 1) else (m, e)
    if e > f.maxExponent then (.infinite, true)
    else
      let (a, b) := scale 2 n d (-e)
      (.finite m e, m < Nat.pow 2 (f.bits - 1) && a != m * b)

/-- Digits with a point among them: the number that all of them make, how many stand behind the
point, and what follows. -/
def pointed (base : Nat) (text : Octets) : Option (Nat × Nat × Octets) :=
  let (n, rest) := digits base 0 text
  let whole := text.length - rest.length
  match rest with
  | '.' :: behind =>
    let (n, rest) := digits base n behind
    let places := behind.length - rest.length
    if whole + places = 0 then none else some (n, places, rest)
  | _ => if whole = 0 then none else some (n, 0, rest)

/-- An exponent behind a letter, and what follows; without digits there is none. -/
def exponent (letter : Char) (text : Octets) : Int × Octets :=
  match text with
  | c :: rest =>
    if c.toLower = letter then
      let (negative, body) := Numeral.sign rest
      let (n, behind) := digits 10 0 body
      if behind.length < body.length then (if negative then -(n : Int) else n, behind)
      else (0, text)
    else (0, text)
  | [] => (0, text)

/-- An exponent that is too large to matter is cut off. -/
def limited (e : Int) (bound : Int) : Int := max (-bound) (min e bound)

/-- Whether a text starts with a word, in whatever case; what follows it. -/
def word? (word : String) (text : Octets) : Option Octets :=
  if (text.take word.length).map Char.toLower = word.toList then some (text.drop word.length)
  else none

/-- Reads a number. -/
def read (f : FloatFormat) (text : Octets) : FloatReading :=
  let (negative, body) := Numeral.sign (text.dropWhile isSpace)
  let nothing : FloatReading := ⟨⟨false, .finite 0 0⟩, text, false, false⟩
  match word? "infinity" body <|> word? "inf" body, word? "nan" body with
  | some rest, _ => ⟨⟨negative, .infinite⟩, rest, false, true⟩
  | none, some rest =>
    let rest := match rest with
      | '(' :: inside =>
        let name := inside.takeWhile fun c => isDigit c || isLetter c || c == '_'
        match inside.drop name.length with
        | ')' :: behind => behind
        | _ => rest
      | _ => rest
    ⟨⟨negative, .undefined⟩, rest, false, true⟩
  | none, none =>
    let hexadecimal := match body with
      | '0' :: x :: rest => if x = 'x' ∨ x = 'X' then pointed 16 rest else none
      | _ => none
    match hexadecimal with
    | some (n, places, rest) =>
      let (e, rest) := exponent 'p' rest
      let bound : Int := 40000 + 4 * body.length
      let (a, b) := scale 2 n 1 (limited (e - 4 * places) bound)
      let (size, out) := ofQuotient f a b
      ⟨⟨negative, size⟩, rest, out, true⟩
    | none =>
      match pointed 10 body with
      | some (n, places, rest) =>
        let (e, rest) := exponent 'e' rest
        let bound : Int := 12000 + body.length
        let (a, b) := scale 10 n 1 (limited (e - places) bound)
        let (size, out) := ofQuotient f a b
        ⟨⟨negative, size⟩, rest, out, true⟩
      | none => nothing

/-- The digits of a whole number with a point in front of the last ones. -/
def withPoint (n places : Nat) (always : Bool) : Octets :=
  let ds := (Text.ofNat n).leftpad (places + 1) '0'
  let whole := ds.take (ds.length - places)
  if places = 0 then (if always then whole ++ ['.'] else whole)
  else whole ++ '.' :: ds.drop (ds.length - places)

/-- The positional form with so many places. -/
def fixed (m : Nat) (e : Int) (places : Nat) (always : Bool) : Octets :=
  let (a, b) := scale 2 (m * Nat.pow 10 places) 1 e
  withPoint (roundDiv a b) places always

/-- The digits of the exponential form with so many places, and the exponent of ten. -/
def scientificDigits (m : Nat) (e : Int) (places : Nat) : Nat × Int :=
  if m = 0 then (0, 0)
  else
    let (a, b) := scale 2 m 1 e
    let digitsAt (x : Int) : Nat :=
      let (c, d) := scale 10 a b (places - x)
      roundDiv c d
    -- The digits of both parts bound the exponent from both sides.
    let guess : Int := ((Text.ofNat a).length : Int) - (Text.ofNat b).length
    let fits (x : Int) : Bool :=
      let (c, d) := scale 10 a b (-x)
      c ≥ d
    let x := if fits guess then guess else guess - 1
    let n := digitsAt x
    if n ≥ Nat.pow 10 (places + 1) then (digitsAt (x + 1), x + 1) else (n, x)

/-- An exponent of ten. -/
def exponentText (x : Int) : Octets :=
  'e' :: (if x < 0 then '-' else '+') :: (Text.ofNat x.natAbs).leftpad 2 '0'

/-- The exponential form with so many places. -/
def scientific (m : Nat) (e : Int) (places : Nat) (always : Bool) : Octets :=
  let (n, x) := scientificDigits m e places
  withPoint n places always ++ exponentText x

/-- Digits without the zeros at the end of the places, and without a point that nothing follows. -/
def stripZeros (o : Octets) : Octets :=
  if '.' ∈ o then
    match o.reverse.dropWhile (· = '0') with
    | '.' :: rest => rest.reverse
    | rest => rest.reverse
  else o

/-- The shorter of both forms, with so many significant digits. -/
def general (m : Nat) (e : Int) (precision : Nat) (always : Bool) : Octets :=
  let p := max precision 1
  let (n, x) := scientificDigits m e (p - 1)
  let strip (o : Octets) : Octets := if always then o else stripZeros o
  if x < -4 ∨ x ≥ p then strip (withPoint n (p - 1) always) ++ exponentText x
  else strip (fixed m e (p - 1 - x).toNat always)

/-- The form with hexadecimal digits, of which the first has so many bits. -/
def hexadecimal (f : FloatFormat) (m : Nat) (e : Int) (places : Option Nat) (always : Bool) :
    Octets :=
  let first := if f.bits % 4 = 0 then 4 else 1
  let width := (f.bits - first) / 4
  let (m, e) :=
    if m = 0 then (0, 0)
    else
      let shift := min (f.bits - 1 - m.log2) (e - f.minExponent).toNat
      (m * Nat.pow 2 shift, e - shift + (f.bits - first))
  let (n, count) := match places with
    | some p => if p < width then (roundDiv m (Nat.pow 2 (4 * (width - p))), p) else (m, width)
    | none => (m, width)
  let lead := n / Nat.pow 16 count
  let ds := (inBase 16 count (n % Nat.pow 16 count)).drop (if count = 0 then 1 else 0)
  let ds := match places with
    | some p => ds.rightpad p '0'
    | none => (ds.reverse.dropWhile (· = '0')).reverse
  "0x".toList ++ inBase 16 1 lead ++ (if ds ≠ [] || always then '.' :: ds else []) ++
    'p' :: (if e < 0 then '-' else '+') :: Text.ofNat e.natAbs

end Floating

end LineShell.Unix
