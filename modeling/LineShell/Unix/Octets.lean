import LineShell.Text.Cut
import LineShell.Text.Utf8

/-! Strings of bytes. A byte is held as the character of its number, so that ASCII can be written as
it is; characters from number 256 on never occur. -/

namespace LineShell.Unix

/-- A string of bytes. -/
abbrev Octets := List Char

namespace Octets

def ofBytes (bytes : Bytes) : Octets := bytes.map fun b => Char.ofNat b.toNat

def toBytes (o : Octets) : Bytes := o.map fun c => UInt8.ofNat c.toNat

/-- The UTF-8 form of a text. -/
def ofText (t : Text) : Octets := ofBytes t.encode

/-- The text that a string of bytes stands for. -/
def toText (o : Octets) : Text := Text.decode (toBytes o)

/-- An integer in decimal digits. -/
def ofInt (n : Int) : Octets :=
  if n < 0 then '-' :: Text.ofNat n.natAbs else Text.ofNat n.natAbs

/-- Whether a string starts with another; if so, what comes behind that. -/
def after? : Octets → Octets → Option Octets
  | [], o => some o
  | _ :: _, [] => none
  | c :: cs, d :: ds => if c = d then after? cs ds else none

/-- The order of strings byte by byte. -/
def le : Octets → Octets → Bool
  | [], _ => true
  | _ :: _, [] => false
  | c :: cs, d :: ds => if c = d then le cs ds else c.toNat ≤ d.toNat

/-- Strings in order. -/
def sort (os : List Octets) : List Octets := os.mergeSort le

/-- Blanks as C's `isspace` knows them. -/
def isSpace (c : Char) : Bool := c == ' ' || 9 ≤ c.toNat && c.toNat ≤ 13

def isDigit (c : Char) : Bool := 48 ≤ c.toNat && c.toNat ≤ 57

def isLetter (c : Char) : Bool :=
  65 ≤ c.toNat && c.toNat ≤ 90 || 97 ≤ c.toNat && c.toNat ≤ 122

/-- A byte that is shown as it is. -/
def isPlain (c : Char) : Bool := 0x20 ≤ c.toNat && c.toNat < 0x7F

/-- The value of a digit in bases up to 36. -/
def digit? (base : Nat) (c : Char) : Option Nat :=
  let n :=
    if isDigit c then c.toNat - 48
    else if 97 ≤ c.toNat && c.toNat ≤ 122 then c.toNat - 87
    else if 65 ≤ c.toNat && c.toNat ≤ 90 then c.toNat - 55
    else base
  if n < base then some n else none

/-- The number that the digits at the start of a string give, and what follows them. -/
def digits (base : Nat) : Nat → Octets → Nat × Octets
  | n, [] => (n, [])
  | n, c :: cs =>
    match digit? base c with
    | some d => digits base (n * base + d) cs
    | none => (n, c :: cs)

/-- The number that at most so many digits at the start of a string give, and what follows. -/
def digitsUpTo (base : Nat) : Nat → Nat → Octets → Nat × Octets
  | 0, n, cs => (n, cs)
  | _ + 1, n, [] => (n, [])
  | limit + 1, n, c :: cs =>
    match digit? base c with
    | some d => digitsUpTo base limit (n * base + d) cs
    | none => (n, c :: cs)

theorem length_digitsUpTo_le (base limit n : Nat) (cs : Octets) :
    (digitsUpTo base limit n cs).2.length ≤ cs.length := by
  induction limit generalizing n cs with
  | zero => simp [digitsUpTo]
  | succ limit ih =>
    cases cs with
    | nil => simp [digitsUpTo]
    | cons c cs =>
      simp only [digitsUpTo]
      split
      · exact Nat.le_succ_of_le (ih _ _)
      · simp

/-- A number in digits of a base, at least so many. -/
def inBase (base width n : Nat) : Octets := (Nat.toDigits base n).leftpad width '0'

end Octets

end LineShell.Unix
