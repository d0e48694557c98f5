import LineShell.Unix.Floating

/-! Fields of a given width: how integers, numbers and texts are laid out in them. -/

namespace LineShell.Unix

/-- How a field is laid out. -/
structure Directive where
  left : Bool := false
  plus : Bool := false
  space : Bool := false
  alternate : Bool := false
  zero : Bool := false
  width : Nat := 0
  precision : Option Nat := none
  deriving DecidableEq, Repr

namespace Directive

/-- The layout with a flag added. -/
def flag (d : Directive) (c : Char) : Directive :=
  match c with
  | '-' => { d with left := true }
  | '+' => { d with plus := true }
  | ' ' => { d with space := true }
  | '#' => { d with alternate := true }
  | '0' => { d with zero := true }
  | _ => d

/-- The layout with a width; one below zero puts the text to the left. -/
def setWidth (d : Directive) (n : Int) : Directive :=
  { d with width := n.natAbs, left := d.left || n < 0 }

/-- The largest field that can be laid out. -/
def maxField : Nat := 0x1000000

/-- Whether a field is too large to be laid out. -/
def isHuge (d : Directive) : Bool := d.width > maxField || d.precision.any (· > maxField)

/-- Text between blanks, or a number behind zeros. -/
def pad (d : Directive) (zeros : Bool) (front body : Octets) : Octets :=
  let missing := d.width - (front.length + body.length)
  if d.left then front ++ body ++ List.replicate missing ' '
  else if zeros then front ++ List.replicate missing '0' ++ body
  else List.replicate missing ' ' ++ front ++ body

/-- What stands in front of a number. -/
def signOf (d : Directive) (negative : Bool) : Octets :=
  if negative then ['-'] else if d.plus then ['+'] else if d.space then [' '] else []

/-- Digits, at least as many as the precision asks for. -/
def digitsOf (d : Directive) (base n : Nat) : Octets :=
  if d.precision = some 0 ∧ n = 0 then [] else Octets.inBase base (d.precision.getD 1) n

/-- An integer in decimal. -/
def integer (d : Directive) (n : Int) : Octets :=
  d.pad (d.zero && d.precision.isNone) (d.signOf (n < 0)) (d.digitsOf 10 n.natAbs)

/-- An integer without a sign. -/
def unsigned (d : Directive) (letter : Char) (n : Nat) : Octets :=
  let zeros := d.zero && d.precision.isNone
  match letter with
  | 'o' =>
    let ds := d.digitsOf 8 n
    d.pad zeros [] (if d.alternate && ds.head? != some '0' then '0' :: ds else ds)
  | 'x' => d.pad zeros (if d.alternate && n != 0 then "0x".toList else []) (d.digitsOf 16 n)
  | 'X' =>
    d.pad zeros (if d.alternate && n != 0 then "0X".toList else [])
      ((d.digitsOf 16 n).map Char.toUpper)
  | _ => d.pad zeros [] (d.digitsOf 10 n)

/-- A floating-point number. -/
def floating (d : Directive) (letter : Char) (f : FloatFormat) (x : Floating) : Octets :=
  let upper := letter.isUpper
  let cased (o : Octets) : Octets := if upper then o.map Char.toUpper else o
  let sign := d.signOf x.negative
  match x.size with
  | .infinite => d.pad false sign (cased "inf".toList)
  | .undefined => d.pad false sign (cased "nan".toList)
  | .finite m e =>
    match letter.toLower with
    | 'e' => d.pad d.zero sign (cased (Floating.scientific m e (d.precision.getD 6) d.alternate))
    | 'g' => d.pad d.zero sign (cased (Floating.general m e (d.precision.getD 6) d.alternate))
    | 'a' =>
      let text := cased (Floating.hexadecimal f m e d.precision d.alternate)
      d.pad d.zero (sign ++ text.take 2) (text.drop 2)
    | _ => d.pad d.zero sign (Floating.fixed m e (d.precision.getD 6) d.alternate)

/-- A text, cut off where the precision says. -/
def string (d : Directive) (o : Octets) : Octets :=
  d.pad false [] (match d.precision with
    | some n => o.take n
    | none => o)

end Directive

end LineShell.Unix
