import LineShell.Unix.Numeral

/-! Sizes in units: in blocks of so many bytes, or in whatever unit makes the number short. What is
left over counts as a whole. -/

namespace LineShell.Unix

open Octets

/-- How sizes are written. -/
structure Scale where
  /-- The bytes of a block. -/
  block : Nat := 1
  /-- The unit depends on the size. -/
  automatic : Bool := false
  /-- The unit is written behind the number. -/
  named : Bool := false
  /-- Units are powers of 1024 and not of 1000. -/
  binary : Bool := false
  /-- The unit is written with a B at its end. -/
  suffixed : Bool := false
  deriving DecidableEq, Repr

namespace Scale

/-- The units, each of them larger than the one before. -/
def letters : List Char := ['K', 'M', 'G', 'T', 'P', 'E', 'Z', 'Y', 'R', 'Q']

def base (s : Scale) : Nat := if s.binary then 1024 else 1000

/-- A number of which a part was cut off: its tenths, and what is left besides them, which is 0,
less than half of a tenth, a half, or more. -/
structure Rounded where
  whole : Nat
  tenths : Nat := 0
  rest : Nat := 0
  deriving DecidableEq, Repr

/-- A number in the next larger unit. -/
def Rounded.up (base : Nat) (r : Rounded) : Rounded :=
  let ten := r.whole % base * 10 + r.tenths
  let two := ten % base * 2 + r.rest / 2
  { whole := r.whole / base, tenths := ten / base
    rest := if two < base then (if two + r.rest = 0 then 0 else 1)
      else if base < two + r.rest then 3 else 2 }

/-- A number in the unit that makes it short, and how large that unit is. -/
def shorten (base : Nat) : Nat → Rounded → Rounded × Nat
  | 0, r => (r, 0)
  | fuel + 1, r =>
    if r.whole < base then (r, 0)
    else
      let (r, n) := shorten base fuel (r.up base)
      (r, n + 1)

/-- The unit, given how large it is. -/
def unitName (s : Scale) (n : Nat) : Octets :=
  if !s.named then []
  else
    let letter := match n with
      | 0 => []
      | n + 1 => [if n = 0 ∧ !s.binary then 'k' else letters.getD n 'Q']
    let suffix := if !s.suffixed then [] else if s.binary ∧ n > 0 then ['i', 'B'] else ['B']
    letter ++ suffix

/-- How large a unit has to be to reach a block. -/
def exponent (base block : Nat) : Nat → Nat → Nat
  | 0, _ => 0
  | fuel + 1, power => if power < block then exponent base block fuel (power * base) + 1 else 0

/-- A number of bytes in units. -/
def render (s : Scale) (bytes : Nat) : Octets :=
  if !s.automatic then
    Text.ofNat ((bytes + s.block - 1) / s.block) ++ s.unitName (exponent s.base s.block 10 1)
  else
    let (r, n) := shorten s.base 10 ⟨bytes, 0, 0⟩
    if n = 0 then Text.ofNat r.whole ++ s.unitName 0
    else
      let tenths := if r.rest > 0 then r.tenths + 1 else r.tenths
      let (whole, tenths) := if tenths = 10 then (r.whole + 1, 0) else (r.whole, tenths)
      if r.whole < 10 ∧ whole < 10 then
        Text.ofNat whole ++ '.' :: Text.ofNat tenths ++ s.unitName n
      else
        let whole := if r.whole < 10 then whole + min tenths 1
          else r.whole + min (r.tenths + r.rest) 1
        if whole = s.base ∧ n < 10 then "1.0".toList ++ s.unitName (n + 1)
        else Text.ofNat whole ++ s.unitName n

/-- Why a text is no scale. -/
inductive Problem
  | malformed
  | suffix
  | tooLarge
  deriving DecidableEq, Repr

/-- The scale that a word names; it may be shortened. -/
def ofWord? (text : Octets) : Option Scale :=
  if text = [] then none
  else if (after? text "human-readable".toList).isSome then
    some { automatic := true, named := true, binary := true }
  else if (after? text "si".toList).isSome then some { automatic := true, named := true }
  else none

/-- Units by letter, with how large they are. -/
def power? (c : Char) : Option Nat :=
  if c ∈ ['g', 'k', 'm', 't'] then (letters.idxOf? c.toUpper).map (· + 1)
  else (letters.idxOf? c).map (· + 1)

/-- Reads a scale: the name of one, or a block with a unit behind or in place of a number. -/
def read? (text : Octets) : Except Problem Scale := do
  let text := match text with
    | '\'' :: rest => rest
    | _ => text
  if let some s := ofWord? text then return s
  let body := text.dropWhile isSpace
  let (n, rest) ← match Numeral.read? text with
    | some ⟨n, rest⟩ => if body.head? = some '-' then throw .malformed else pure (n.toNat, rest)
    | none =>
      if (text.head?.bind power?).isSome then pure (1, text) else throw .malformed
  let number (n : Nat) : Except Problem Nat :=
    if n = 0 then .error .malformed
    else if (n : Int) > Numeral.maxUnsigned then .error .tooLarge
    else .ok n
  match rest with
  | [] => return { block := ← number n }
  | c :: behind =>
    match power? c with
    | none => .error .suffix
    | some power =>
      let (base, left) := match behind with
        | 'i' :: 'B' :: left => (1024, left)
        | 'B' :: left | 'D' :: left => (1000, left)
        | left => (1024, left)
      if left ≠ [] then throw .suffix
      let block ← number (n * base.pow power)
      if text.any isDigit then return { block }
      else
        let suffixed := behind.getLast? = some 'B'
        return { block, named := true, binary := behind ≠ ['B'], suffixed }

end Scale

end LineShell.Unix
