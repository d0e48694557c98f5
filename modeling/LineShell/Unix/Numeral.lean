import LineShell.Unix.Octets

/-! Integers as texts: with blanks and a sign in front, in decimal, or in another base that the
first digits say. -/

namespace LineShell.Unix

open Octets

/-- What was read off the start of a text. -/
structure Numeral where
  value : Int
  rest : Octets
  deriving DecidableEq, Repr

namespace Numeral

/-- The base that the first digits say, and the digits behind that. -/
def base (text : Octets) : Nat × Octets :=
  match text with
  | '0' :: x :: cs =>
    if (x = 'x' ∨ x = 'X') ∧ cs.head?.any fun c => (digit? 16 c).isSome then (16, cs) else (8, text)
  | ['0'] => (8, text)
  | _ => (10, text)

/-- The sign in front of a text. -/
def sign (text : Octets) : Bool × Octets :=
  match text with
  | '-' :: rest => (true, rest)
  | '+' :: rest => (false, rest)
  | _ => (false, text)

/-- Reads an integer, in decimal only if that is asked for; there is none if no digit comes. -/
def read? (text : Octets) (decimal : Bool := false) : Option Numeral :=
  let (negative, body) := sign (text.dropWhile isSpace)
  let (b, body) := if decimal then (10, body) else base body
  let (n, rest) := digits b 0 body
  if rest.length < body.length then some ⟨if negative then -(n : Int) else n, rest⟩ else none

/-- The largest integer of 64 bits with a sign. -/
def maxSigned : Int := 0x7FFFFFFFFFFFFFFF

/-- The largest integer of 64 bits without a sign. -/
def maxUnsigned : Int := 0xFFFFFFFFFFFFFFFF

/-- The nearest integer of 64 bits with a sign, and whether that is another one. -/
def clampSigned (n : Int) : Int × Bool :=
  if n > maxSigned then (maxSigned, true)
  else if n < -maxSigned - 1 then (-maxSigned - 1, true)
  else (n, false)

/-- An integer of 64 bits without a sign; those below zero wrap around. -/
def clampUnsigned (n : Int) : Int × Bool :=
  if n > maxUnsigned ∨ n < -maxUnsigned then (maxUnsigned, true)
  else (if n < 0 then n + maxUnsigned + 1 else n, false)

/-- The integer of 64 bits with a sign that an integer wraps around to. -/
def wrap (n : Int) : Int :=
  let m := n % 0x10000000000000000
  if m > maxSigned then m - 0x10000000000000000 else m

/-- The integer of 64 bits without a sign that an integer wraps around to. -/
def wrapUnsigned (n : Int) : Nat := (n % 0x10000000000000000).toNat

end Numeral

end LineShell.Unix
