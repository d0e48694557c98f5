import LineShell.Unix.Octets

/-! Changes of file modes, written as an octal number or as clauses such as `u+w,go=r`. -/

namespace LineShell.Unix

open Octets

/-- Where the bits of a change come from. -/
inductive ModeSource
  | given
  /-- The bits that one group of users has already. -/
  | existing
  /-- Those given, and execution if anyone may execute the file or it is a directory. -/
  | executable
  deriving DecidableEq, Repr

/-- One change of a mode. -/
structure ModeChange where
  op : Char
  source : ModeSource
  /-- The bits that may change; none of them if no users are named. -/
  affected : Nat
  value : Nat
  mentioned : Nat
  deriving DecidableEq, Repr

namespace Mode

/-- All bits of a mode. -/
def all : Nat := 0o7777

/-- The bits that belong to users. -/
def whoBits : List (Char × Nat) :=
  [('u', 0o4700), ('g', 0o2070), ('o', 0o1007), ('a', 0o7777)]

/-- The bits of permissions. -/
def permissionBits : List (Char × Nat) :=
  [('r', 0o444), ('w', 0o222), ('x', 0o111), ('X', 0), ('s', 0o6000), ('t', 0o1000)]

/-- The permissions of one group of users. -/
def groupBits : List (Char × Nat) := [('u', 0o700), ('g', 0o070), ('o', 0o007)]

def isOperator (c : Char) : Bool := c == '=' || c == '+' || c == '-'

/-- The bits of letters. -/
def bitsOf (table : List (Char × Nat)) (letters : Octets) : Nat :=
  letters.foldl (fun bits c => bits ||| (table.lookup c).getD 0) 0

/-- Reads the operators of a clause with what they say. -/
def actions (affected : Nat) : Nat → Octets → Option (List ModeChange × Octets)
  | 0, _ | _, [] => none
  | fuel + 1, op :: rest =>
    if !isOperator op then none
    else
      let more (change : ModeChange) (behind : Octets) : Option (List ModeChange × Octets) :=
        if behind.head?.any isOperator then do
          let (changes, behind) ← actions affected fuel behind
          return (change :: changes, behind)
        else some ([change], behind)
      let limited (value : Nat) := if affected = 0 then value else affected &&& value
      match rest.head? with
      | some c =>
        if (digit? 8 c).isSome then
          let (value, behind) := digits 8 0 rest
          if value > all ∨ affected ≠ 0 ∨ !(behind = [] ∨ behind.head? = some ',') then none
          else more ⟨op, .given, all, value, all⟩ behind
        else
          match groupBits.lookup c with
          | some value => more ⟨op, .existing, affected, value, limited value⟩ (rest.drop 1)
          | none =>
            let letters := rest.takeWhile fun c => (permissionBits.lookup c).isSome
            let value := bitsOf permissionBits letters
            let source := if 'X' ∈ letters then ModeSource.executable else .given
            more ⟨op, source, affected, value, limited value⟩ (rest.drop letters.length)
      | none => more ⟨op, .given, affected, 0, 0⟩ []

/-- Reads clauses with commas between them. -/
def clauses : Nat → Octets → Option (List ModeChange)
  | 0, _ => none
  | fuel + 1, text =>
    let who := text.takeWhile fun c => (whoBits.lookup c).isSome
    match actions (bitsOf whoBits who) (text.length + 1) (text.drop who.length) with
    | none => none
    | some (changes, []) => some changes
    | some (changes, ',' :: rest) => (clauses fuel rest).map (changes ++ ·)
    | some _ => none

/-- Reads the changes that a text asks for. -/
def parse (text : Octets) : Option (List ModeChange) :=
  if text.head?.any fun c => (digit? 8 c).isSome then
    let (value, behind) := digits 8 0 text
    if value > all ∨ behind ≠ [] then none
    else
      let mentioned := if text.length < 5 then (value &&& 0o7000) ||| 0o777 else all
      some [⟨'=', .given, all, value, mentioned⟩]
  else clauses (text.length + 1) text

/-- Gives all users what one of them has. -/
def spread (bits : Nat) : Nat :=
  [0o444, 0o222, 0o111].foldl (fun all kind => if bits &&& kind = 0 then all else all ||| kind) bits

/-- Carries out a change of the mode of a directory or another file. -/
def applyOne (isDirectory : Bool) (umask mode : Nat) (c : ModeChange) : Nat :=
  let without (bits mask : Nat) : Nat := bits &&& (all ^^^ (mask &&& all))
  let kept := if isDirectory then without 0o6000 c.mentioned else 0
  let value := match c.source with
    | .given => c.value
    | .existing => spread (c.value &&& mode)
    | .executable => if isDirectory ∨ mode &&& 0o111 ≠ 0 then c.value ||| 0o111 else c.value
  let limit := if c.affected = 0 then without all umask else c.affected
  let value := without (value &&& limit) kept
  match c.op with
  | '=' =>
    let preserved := (if c.affected = 0 then 0 else without all c.affected) ||| kept
    (mode &&& preserved) ||| value
  | '+' => mode ||| value
  | _ => without mode value

/-- Carries out changes of a mode. -/
def apply (changes : List ModeChange) (isDirectory : Bool) (umask mode : Nat) : Nat :=
  changes.foldl (applyOne isDirectory umask) mode

end Mode

end LineShell.Unix
