import LineShell.Unix.Directive
import LineShell.Unix.Tools.Echo

/-! Printing arguments with a format, which is used over and over while there are arguments left. -/

namespace LineShell.Unix

open Octets

namespace Format

/-- What a format is being used for: the arguments that are left. A number that is none is
complained about and counted. -/
structure Progress where
  args : List Octets
  failed : Bool := false

/-- The work of printing, which ends early where an escape says so. -/
abbrev Printing := StateT Progress Tool

/-- Ends with what was printed so far. -/
def stop {α : Type} : Printing α := Tool.leave (α := α) (.code 0)

/-- Takes the next argument, if there is one. -/
def next? : Printing (Option Octets) := do
  match (← get).args with
  | [] => return none
  | arg :: rest =>
    modify ({ · with args := rest })
    return some arg

/-- Complains about an argument that is no number. -/
def report (arg rest : Octets) (outOfRange found : Bool) : Printing Unit := do
  let bad (text : Octets) (reason : Option Reason) : Printing Unit := do
    Tool.complain (quoteEscaped arg ++ text) reason
    modify ({ · with failed := true })
  if outOfRange then bad [] (some .outOfRange)
  else if rest ≠ [] then
    bad (if found then ": value not completely converted".toList
      else ": expected a numeric value".toList) none

/-- The number of the byte behind a quote; more bytes are complained about. -/
def constant? (arg : Octets) : Printing (Option Nat) := do
  match arg with
  | q :: c :: rest =>
    if q = '"' ∨ q = '\'' then
      if rest ≠ [] ∧ ((← read).getenv? "POSIXLY_CORRECT").isNone then
        Tool.complain ("warning: ".toList ++ rest ++
          ": character(s) following character constant have been ignored".toList)
      return some c.toNat
    else return none
  | _ => return none

/-- The integer that an argument stands for. -/
def integer (arg : Octets) (clamp : Int → Int × Bool) : Printing Int := do
  match ← constant? arg with
  | some n => return n
  | none =>
    match Numeral.read? arg with
    | none =>
      report arg arg false false
      return 0
    | some n =>
      let (value, outOfRange) := clamp n.value
      report arg n.rest outOfRange true
      return value

/-- The number that an argument stands for. -/
def floating (arg : Octets) : Printing Floating := do
  match ← constant? arg with
  | some n =>
    return ⟨false, (Floating.ofQuotient .extended n 1).1⟩
  | none =>
    let r := Floating.read .extended arg
    report arg r.rest r.outOfRange r.found
    return r.value

/-- A character by its number, in a locale that knows ASCII alone. -/
def universal (n : Nat) : Octets :=
  if n < 0x80 then [byte n]
  else if n < 0x10000 then "\\u".toList ++ (inBase 16 4 n).map Char.toUpper
  else "\\U".toList ++ (inBase 16 8 n).map Char.toUpper

/-- Complains about an escape. -/
def badEscape {α : Type} : Printing α :=
  Tool.fail (α := α) 1 "missing hexadecimal number in escape".toList

/-- Prints what a backslash stands for in front of a text, and says what is left. If `zero` is set,
octal digits may have a zero in front of them. -/
def escape (zero : Bool) (text : Octets) : Printing Octets := do
  match text with
  | [] =>
    Tool.print ['\\']
    return []
  | c :: rest =>
    match controlEscapes.lookup c with
    | some n =>
      Tool.print [byte n]
      return rest
    | none =>
      if c = '"' then
        Tool.print [c]
        return rest
      else if c = 'c' then stop
      else if c = 'x' then
        let (n, behind) := digitsUpTo 16 2 0 rest
        if behind.length = rest.length then badEscape
        Tool.print [byte n]
        return behind
      else if (digit? 8 c).isSome then
        let (n, behind) := digitsUpTo 8 3 0 (if zero ∧ c = '0' then rest else text)
        Tool.print [byte n]
        return behind
      else if c = 'u' ∨ c = 'U' then
        let width := if c = 'u' then 4 else 8
        let (n, behind) := digitsUpTo 16 width 0 rest
        if rest.length - behind.length < width then badEscape
        if n < 0xA0 ∧ n ≠ 0x24 ∧ n ≠ 0x40 ∧ n ≠ 0x60 ∨ 0xD800 ≤ n ∧ n ≤ 0xDFFF then
          Tool.fail (α := Unit) 1
            ("invalid universal character name \\".toList ++ c :: inBase 16 width n)
        Tool.print (universal n)
        return behind
      else
        Tool.print ['\\', c]
        return rest

/-- Prints a text with its escapes resolved. -/
def escaped : Nat → Octets → Printing Unit
  | 0, _ | _, [] => return
  | fuel + 1, c :: rest => do
    if c = '\\' then escaped fuel (← escape true rest)
    else
      Tool.print [c]
      escaped fuel rest

/-- The conversions that a flag rules out. -/
def excluded (flag : Char) : Octets :=
  match flag with
  | 'I' | '\'' => "aAceEosxX".toList
  | '#' => "cdisu".toList
  | '0' => "cs".toList
  | '.' => ['c']
  | _ => []

/-- A number taken from the arguments in place of a width or precision. -/
def starred (what : String) (negative : Bool) : Printing Int := do
  match ← next? with
  | none => return 0
  | some arg =>
    let n ← integer arg Numeral.clampSigned
    if n > 0x7FFFFFFF ∨ n < -0x80000000 ∧ !negative then
      Tool.fail (α := Unit) 1
        ("invalid ".toList ++ what.toList ++ ": ".toList ++ quoteEscaped arg)
    return n

/-- Prints what a percent sign stands for in front of a text, and says what is left. -/
def directive (text : Octets) : Printing Octets := do
  match text with
  | '%' :: rest =>
    Tool.print ['%']
    return rest
  | 'b' :: rest =>
    if let some arg ← next? then escaped arg.length arg
    return rest
  | 'q' :: rest =>
    if let some arg ← next? then Tool.print (quoteIfNeeded arg)
    return rest
  | _ =>
    let flags := text.takeWhile ("-+ #0I'".toList.contains ·)
    let d := flags.foldl Directive.flag {}
    let rest := text.drop flags.length
    let (d, rest) ← match rest with
      | '*' :: rest => pure (d.setWidth (← starred "field width" false), rest)
      | _ =>
        let (n, rest) := digits 10 0 rest
        pure ({ d with width := n }, rest)
    let (d, rest, pointed) ← match rest with
      | '.' :: '*' :: rest =>
        let n ← starred "precision" true
        pure ({ d with precision := if n < 0 then none else some n.toNat }, rest, true)
      | '.' :: rest =>
        let (n, rest) := digits 10 0 rest
        pure ({ d with precision := some n }, rest, true)
      | _ => pure (d, rest, false)
    let rest := rest.dropWhile ("lLhjtz".toList.contains ·)
    let letter := rest.headD '\x00'
    let ruledOut := (flags ++ if pointed then ['.'] else []).any fun f =>
      (excluded f).contains letter
    if ruledOut || !"aAcdeEfFgGiosuxX".toList.contains letter then
      Tool.fail (α := Unit) 1 ('%' :: text.take (text.length - rest.length + 1) ++
        ": invalid conversion specification".toList)
    let arg ← next?
    let huge := d.isHuge
    let d := if huge then {} else d
    let body ← match letter with
      | 's' => pure (d.string (arg.getD []))
      | 'c' => pure (d.pad false [] [(arg.getD []).headD '\x00'])
      | 'd' | 'i' =>
        pure (d.integer (← arg.elim (pure 0) fun arg => integer arg Numeral.clampSigned))
      | 'o' | 'u' | 'x' | 'X' =>
        let n ← arg.elim (pure 0) fun arg => integer arg Numeral.clampUnsigned
        pure (d.unsigned letter n.toNat)
      | _ =>
        let x ← arg.elim (pure ⟨false, .finite 0 0⟩) floating
        pure (d.floating letter .extended x)
    if huge then Tool.lose
    else Tool.print body
    return rest.drop 1

/-- Uses a format once. -/
def once : Nat → Octets → Printing Unit
  | 0, _ | _, [] => return
  | fuel + 1, c :: rest => do
    if c = '%' then once fuel (← directive rest)
    else if c = '\\' then once fuel (← escape false rest)
    else
      Tool.print [c]
      once fuel rest

/-- Uses a format until it takes no more arguments. -/
def all (template : Octets) : Nat → Printing Unit
  | 0 => return
  | fuel + 1 => do
    let before := (← get).args.length
    once (template.length + 1) template
    let left := (← get).args.length
    if left < before ∧ left > 0 then all template fuel

end Format

/-- Prints arguments with a format. -/
def Tool.printf : Tool Nat := do
  let args := match (← read).args with
    | ['-', '-'] :: rest => rest
    | args => args
  match args with
  | [] => Tool.misuse 1 "missing operand".toList
  | template :: args =>
    let ((), progress) ← (Format.all template (args.length + 1)).run { args }
    match progress.args with
    | extra :: _ =>
      Tool.complain
        ("warning: ignoring excess arguments, starting with ".toList ++ quoteEscaped extra)
    | [] => pure ()
    return if progress.failed then 1 else 0

end LineShell.Unix
