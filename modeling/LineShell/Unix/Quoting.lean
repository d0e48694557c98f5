import LineShell.Unix.Octets

/-! Names in forms that can be given back to a shell or another program. Bytes outside of printable
ASCII are written by number or left as they are. -/

namespace LineShell.Unix

open Octets

/-- How names are quoted. -/
inductive Quoting
  | literal
  /-- For a shell: always between quotes or only where that is needed. Bytes that cannot be shown
  may be written as escapes. -/
  | shell (always escapes : Bool)
  /-- As a string of a C program: always between quotes or only where that is needed. -/
  | c (always : Bool)
  /-- As in a string, but without quotes. -/
  | escape
  /-- As in a string, but between other marks. -/
  | marked (mark : Char)
  deriving DecidableEq, Repr

/-- The escape of a byte that is not shown as it is. -/
def escapeByte (c : Char) : Octets :=
  '\\' :: match c.toNat with
    | 7 => ['a']
    | 8 => ['b']
    | 9 => ['t']
    | 10 => ['n']
    | 11 => ['v']
    | 12 => ['f']
    | 13 => ['r']
    | n => inBase 8 3 n

/-- A text with escapes for bytes that cannot be shown, backslashes and other bytes. -/
def escaped (others : Octets) (o : Octets) : Octets :=
  o.flatMap fun c =>
    if c = '\\' ∨ c ∈ others then ['\\', c] else if isPlain c then [c] else escapeByte c

/-- A text in quotes with escapes for whatever could not be told from the quotes. -/
def quoteEscaped (o : Octets) (quote : Char := '\'') (others : Octets := []) : Octets :=
  quote :: escaped (quote :: others) o ++ [quote]

/-- The inside of a quoted name, and whether escapes were being written at its end. The flag says
whether they are at its start. -/
def quoteInside : Bool → Octets → Octets × Bool
  | escaping, [] => ([], escaping)
  | escaping, c :: cs =>
    if c = '\'' then
      let (rest, last) := quoteInside false cs
      ("'\\''".toList ++ rest, last)
    else if isPlain c then
      let (rest, last) := quoteInside false cs
      ((if escaping then "''".toList else []) ++ c :: rest, last)
    else
      let (rest, last) := quoteInside true cs
      ((if escaping then [] else "'$'".toList) ++ escapeByte c ++ rest, last)

/-- Whether a name means the same between double quotes as between single ones. -/
def isSafeInside (name : Octets) : Bool :=
  (match name with
    | '#' :: rest | '~' :: rest => rest
    | _ => name).all fun c => isLetter c || isDigit c || "%+,-./:]_ '@".toList.contains c

/-- A name in quotes for a shell; `others` are bytes that get a backslash in front between double
quotes. A name with a quote in it is looked through twice, and whether the first time ended in
escapes is still known the second time. -/
def quoteForShell (escapes : Bool) (others : Octets) (name : Octets) : Octets :=
  if '\'' ∈ name ∧ isSafeInside name then quoteEscaped name '"' others
  else if !escapes then
    '\'' :: (name.flatMap fun c => if c = '\'' then "'\\''".toList else [c]) ++ ['\'']
  else
    let escaping := '\'' ∈ name && (quoteInside false name).2
    '\'' :: (quoteInside escaping name).1 ++ ['\'']

/-- Bytes that a shell would not take as they are, wherever they stand in a name. -/
def isShellSpecial (c : Char) : Bool := " !\"$&'()*;<=>?[\\^|\x60\t\n\x0d".toList.contains c

/-- Whether a name needs quotes for a shell. -/
def needsShellQuotes (escapes : Bool) (others : Octets) (name : Octets) : Bool :=
  name = [] || name.any (fun c => isShellSpecial c || others.contains c || escapes && !isPlain c) ||
    name.head?.any ("#~".toList.contains ·) || name = ['\x7b'] || name = ['\x7d']

/-- A name in quotes; `others` are bytes that are to be told from those around the name. -/
def Quoting.quote (q : Quoting) (name : Octets) (others : Octets := []) : Octets :=
  match q with
  | literal => name
  | shell true escapes => quoteForShell escapes others name
  | shell false escapes =>
    if needsShellQuotes escapes others name then quoteForShell escapes [] name else name
  | c true => quoteEscaped name '"' others
  | c false =>
    if name.any fun c => c = '"' || !isPlain c || others.contains c then quoteEscaped name '"'
    else name
  | escape => escaped others name
  | marked mark => quoteEscaped name mark others

/-- A name in quotes. -/
def quoteName (name : Octets) : Octets := (Quoting.shell true true).quote name

/-- A name in quotes if it needs them. -/
def quoteIfNeeded (name : Octets) : Octets := (Quoting.shell false true).quote name

/-- A name in a complaint that goes on with a colon, in quotes if it needs them. -/
def quoteBeforeColon (name : Octets) : Octets := (Quoting.shell false true).quote name [':']

end LineShell.Unix
