import LineShell.Unix.Machine
import LineShell.Unix.Wildcard

/-! The colours of names in a listing: one for each kind of file, and others for names with some
ending. A colour is a text that a terminal takes as a command. -/

namespace LineShell.Unix

open Octets

namespace Listing

/-- A colour for names with an ending. -/
structure Ending where
  text : Octets
  colour : Octets
  /-- Whether letters have to be of the same case. -/
  exact : Bool := false
  deriving DecidableEq, Repr

/-- The colours of kinds of files and of endings, the one set last in front. -/
structure Palette where
  codes : List (Octets × Octets) := []
  endings : List Ending := []
  deriving DecidableEq, Repr

namespace Palette

/-- The colours that are known from the start, by the names of kinds, with the parts of commands
among them. -/
def standard : List (String × Option String) := [("lc", some "\x1b["), ("rc", some "m"),
  ("ec", none), ("rs", some "0"), ("no", none), ("fi", none), ("di", some "01;34"),
  ("ln", some "01;36"), ("pi", some "33"), ("so", some "01;35"), ("bd", some "01;33"),
  ("cd", some "01;33"), ("mi", none), ("or", none), ("ex", some "01;32"), ("do", some "01;35"),
  ("su", some "37;41"), ("sg", some "30;43"), ("st", some "37;44"), ("ow", some "34;42"),
  ("tw", some "30;42"), ("ca", none), ("mh", none), ("cl", some "\x1b[K")]

/-- The colour of a kind of file, if it has one. -/
def code? (p : Palette) (kind : String) : Option Octets :=
  p.codes.lookup kind.toList <|> ((standard.lookup kind).join.map String.toList)

def code (p : Palette) (kind : String) : Octets := (p.code? kind).getD []

/-- Whether a kind of file looks different from others. -/
def isColoured (p : Palette) (kind : String) : Bool :=
  !(["", "0", "00"] : List String).contains (String.ofList (p.code kind))

/-- Whether links have the colour of what they lead to. -/
def followsLinks (p : Palette) : Bool := p.code "ln" = "target".toList

/-- Reads a text with escapes; the first equals sign may end it. -/
def read? (equalsEnd : Bool) : Nat → Octets → Option (Octets × Octets)
  | 0, _ => none
  | _, [] => some ([], [])
  | _, ':' :: rest => some ([], ':' :: rest)
  | fuel + 1, '\\' :: c :: rest => do
    let (byte, rest) := match digit? 8 c with
      | some _ => number 8 (c :: rest)
      | none => if c = 'x' ∨ c = 'X' then number 16 rest else (plain c, rest)
    let (text, rest) ← read? equalsEnd fuel rest
    return (byte :: text, rest)
  | _, ['\\'] | _, ['^'] => none
  | fuel + 1, '^' :: c :: rest =>
    let go (byte : Char) (rest : Octets) : Option (Octets × Octets) := do
      let (text, rest) ← read? equalsEnd fuel rest
      return (byte :: text, rest)
    if '@' ≤ c ∧ c ≤ '~' then go (Char.ofNat (c.toNat % 32)) rest
    else if c = '?' then go '\x7f' (c :: rest)
    else none
  | fuel + 1, c :: rest =>
    if c = '=' ∧ equalsEnd then some ([], c :: rest)
    else do
      let (text, rest) ← read? equalsEnd fuel rest
      return (c :: text, rest)
where
  /-- A byte by its number. -/
  number (base : Nat) (text : Octets) : Char × Octets :=
    let (n, rest) := digits base 0 text
    (Char.ofNat (n % 256), rest)
  /-- The byte that a letter stands for. -/
  plain (c : Char) : Char :=
    match c with
    | 'a' => '\x07'
    | 'b' => '\x08'
    | 'e' => '\x1b'
    | 'f' => '\x0c'
    | 'n' => '\n'
    | 'r' => '\x0d'
    | 't' => '\t'
    | 'v' => '\x0b'
    | '?' => '\x7f'
    | '_' => ' '
    | c => c

/-- Why a text does not describe colours. -/
inductive Problem
  | unknownKind (name : Octets)
  | malformed
  deriving DecidableEq, Repr

/-- Reads the colours of a text one by one. -/
def readAll (p : Palette) : Nat → Octets → Except Problem Palette
  | 0, _ => .error .malformed
  | _, [] => .ok p
  | fuel + 1, ':' :: rest => readAll p fuel rest
  | fuel + 1, '*' :: rest =>
    match read? true (rest.length + 1) rest with
    | some (text, '=' :: rest) =>
      match read? false (rest.length + 1) rest with
      | some (colour, rest) =>
        readAll { p with endings := { text, colour } :: p.endings } fuel rest
      | none => .error .malformed
    | _ => .error .malformed
  | fuel + 1, a :: b :: '=' :: rest =>
    if (standard.lookup (String.ofList [a, b])).isNone then .error (.unknownKind [a, b])
    else
      match read? false (rest.length + 1) rest with
      | some (colour, rest) => readAll { p with codes := ([a, b], colour) :: p.codes } fuel rest
      | none => .error .malformed
  | _, _ => .error .malformed

def lower (o : Octets) : Octets := o.map Char.toLower

/-- Endings behind another one, without those that it stands for, and whether some of the others
differ from it in the case of their letters alone. Such endings have to match exactly. If one of
them has the same colour, those behind it are left out. -/
def sift (e : Ending) : Bool → List Ending → Bool × List Ending
  | _, [] => (false, [])
  | settled, f :: rest =>
    if f.text = e.text then sift e settled rest
    else if lower f.text ≠ lower e.text then
      let (differs, rest) := sift e settled rest
      (differs, f :: rest)
    else if settled ∨ f.colour = e.colour then sift e true rest
    else (true, { f with exact := true } :: (sift e false rest).2)

/-- Endings without those that others in front of them stand for. -/
def settle : Nat → List Ending → List Ending
  | 0, _ | _, [] => []
  | fuel + 1, e :: rest =>
    let (differs, rest) := sift e false rest
    { e with exact := e.exact || differs } :: settle fuel rest

/-- Reads the colours that a text describes. -/
def ofText? (text : Octets) : Except Problem Palette := do
  let p ← readAll {} (text.length + 1) text
  return { p with endings := settle p.endings.length p.endings }

/-- The colour of a name by its ending. -/
def byEnding? (p : Palette) (name : Octets) : Option Octets :=
  (p.endings.find? fun e =>
    let tail := name.drop (name.length - e.text.length)
    e.text.length ≤ name.length &&
      if e.exact then tail == e.text else lower tail == lower e.text).map (·.colour)

/-- Terminals that show colours. -/
def terminals : List String := ["Eterm", "ansi", "*color*", "con[0-9]*x[0-9]*", "cons25",
  "console", "cygwin", "*direct*", "dtterm", "gnome", "hurd", "jfbterm", "konsole", "kterm",
  "linux", "linux-c", "mlterm", "putty", "rxvt*", "screen*", "st", "terminator", "tmux*", "vt100",
  "xterm*"]

/-- Whether a terminal shows colours. -/
def isKnown (terminal : Octets) : Bool :=
  terminals.any fun t => Wildcard.isMatch t.toList terminal false

/-- The kind of a file for its colour, given what is known about it. -/
def kindOf (p : Palette) (kind : Kind) (mode : Nat) : String :=
  let bit (n : Nat) : Bool := mode &&& n != 0
  match kind with
  | .regular =>
    if bit 0o4000 && p.isColoured "su" then "su"
    else if bit 0o2000 && p.isColoured "sg" then "sg"
    else if bit 0o111 && p.isColoured "ex" then "ex"
    else "fi"
  | .directory =>
    if bit 0o1000 && bit 0o2 && p.isColoured "tw" then "tw"
    else if bit 0o2 && p.isColoured "ow" then "ow"
    else if bit 0o1000 && p.isColoured "st" then "st"
    else "di"
  | .link => "ln"
  | .pipe => "pi"
  | .character => "cd"

end Palette

end Listing

end LineShell.Unix
