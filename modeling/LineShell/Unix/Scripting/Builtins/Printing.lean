import LineShell.Unix.Directive
import LineShell.Unix.Scripting.Builtins.Basic

/-! The builtins that print their arguments. -/

namespace LineShell.Unix.Scripting

open Octets

namespace Escape

/-- Escapes that stand for one byte. -/
def controls : List (Char × Nat) :=
  [('a', 7), ('b', 8), ('e', 27), ('f', 12), ('n', 10), ('r', 13), ('t', 9), ('v', 11), ('\\', 92)]

/-- The byte that a backslash in front of a text stands for, and what is left. -/
def read (text : Octets) : Char × Octets :=
  match text with
  | [] => ('\\', [])
  | c :: rest =>
    match controls.lookup c with
    | some n => (Char.ofNat n, rest)
    | none =>
      if (digit? 8 c).isSome then
        let (n, rest) := digitsUpTo 8 3 0 text
        (Char.ofNat (n % 256), rest)
      else ('\\', text)

theorem length_read_le (text : Octets) : (read text).2.length ≤ text.length := by
  unfold read
  split
  · simp
  · split
    · simp
    · split
      · exact length_digitsUpTo_le ..
      · simp

/-- A text with its escapes resolved, and whether it was cut off by `\c`. -/
def resolve : Octets → Octets × Bool
  | [] => ([], false)
  | '\\' :: 'c' :: _ => ([], true)
  | '\\' :: '0' :: rest =>
    have := length_digitsUpTo_le 8 3 0 rest
    let (more, ended) := resolve (digitsUpTo 8 3 0 rest).2
    (Char.ofNat ((digitsUpTo 8 3 0 rest).1 % 256) :: more, ended)
  | '\\' :: rest =>
    have := length_read_le rest
    let (more, ended) := resolve (read rest).2
    ((read rest).1 :: more, ended)
  | c :: rest =>
    let (more, ended) := resolve rest
    (c :: more, ended)
termination_by text => text.length
decreasing_by all_goals simp_all only [List.length_cons]; omega

end Escape

namespace Builtin

/-- Prints arguments one after the other, up to one that is cut off. -/
def echoAll (newline : Bool) : List Octets → Run Unit
  | [] => if newline then Run.print ['\n'] else return
  | arg :: rest => do
    let (text, ended) := Escape.resolve arg
    Run.print text
    if ended then return
    else if rest = [] then echoAll newline []
    else
      Run.print [' ']
      echoAll newline rest

/-- Prints the arguments with blanks between them. -/
def echo : Builtin
  | ['-', 'n'] :: args => do
    echoAll false args
    return 0
  | args => do
    echoAll true args
    return 0

/-- What a format is being used for: the arguments that are left. A number that is none is
complained about and counted. -/
structure Filling where
  args : List Octets
  failed : Bool := false
  /-- The rest of the format is not used. -/
  ended : Bool := false

namespace Filling

/-- Takes the next argument, if there is one. -/
def next? : StateT Filling Run (Option Octets) := modifyGet fun f =>
  match f.args with
  | [] => (none, f)
  | arg :: rest => (some arg, { f with args := rest })

/-- Complains about a number. -/
def report (arg rest : Octets) (found outOfRange : Bool) : StateT Filling Run Unit := do
  let bad (text : Octets) : StateT Filling Run Unit := do
    Run.warn (arg ++ ": ".toList ++ text)
    modify ({ · with failed := true })
  if rest ≠ [] then
    bad (if found then "not completely converted".toList else "expected numeric value".toList)
  else if outOfRange then bad Reason.outOfRange.text

/-- The next argument as an integer. -/
def integer (clamp : Int → Int × Bool) : StateT Filling Run Int := do
  match ← next? with
  | none => return 0
  | some arg =>
    match arg with
    | '"' :: rest | '\'' :: rest => return (rest.headD '\x00').toNat
    | _ =>
      match Numeral.read? arg with
      | none =>
        report arg arg false false
        return 0
      | some n =>
        let (value, outOfRange) := clamp n.value
        report arg n.rest true outOfRange
        return value

/-- The next argument as a number. -/
def floating : StateT Filling Run Floating := do
  match ← next? with
  | none => return ⟨false, .finite 0 0⟩
  | some arg =>
    match arg with
    | '"' :: rest | '\'' :: rest =>
      return ⟨false, (Floating.ofQuotient .double (rest.headD '\x00').toNat 1).1⟩
    | _ =>
      let r := Floating.read .double arg
      report arg r.rest r.found r.outOfRange
      return r.value

/-- Lays out a directive behind a percent sign; says what is left of the format. -/
def directive (text : Octets) : StateT Filling Run Octets := do
  let flags := text.takeWhile ("#-+ 0".toList.contains ·)
  let d := flags.foldl Directive.flag {}
  let rest := text.drop flags.length
  let (d, rest) ← match rest with
    | '*' :: rest => pure (d.setWidth (wrap32 (← integer Numeral.clampSigned)), rest)
    | _ =>
      let (n, rest) := digits 10 0 rest
      pure ({ d with width := n }, rest)
  let (d, rest) ← match rest with
    | '.' :: '*' :: rest =>
      let n := wrap32 (← integer Numeral.clampSigned)
      pure ({ d with precision := if n < 0 then none else some n.toNat }, rest)
    | '.' :: rest =>
      let (n, rest) := digits 10 0 rest
      pure ({ d with precision := some n }, rest)
    | _ => pure (d, rest)
  match rest with
  | [] => Run.fail (α := Octets) "missing format character".toList
  | c :: rest =>
    let known := "bcsdiouxXaAeEfFgG".toList.contains c
    if known ∧ d.isHuge then Run.fail (α := Unit) "xvsnprintf failed".toList
    match c with
    | 'b' =>
      let (text, ended) := Escape.resolve ((← next?).getD [])
      Run.print (d.string text)
      if ended then modify ({ · with ended := true })
    | 'c' => Run.print (d.pad false [] [((← next?).getD []).headD '\x00'])
    | 's' => Run.print (d.string ((← next?).getD []))
    | 'd' | 'i' => Run.print (d.integer (← integer Numeral.clampSigned))
    | 'o' | 'u' | 'x' | 'X' =>
      Run.print (d.unsigned c (← integer Numeral.clampUnsigned).toNat)
    | 'a' | 'A' | 'e' | 'E' | 'f' | 'F' | 'g' | 'G' =>
      Run.print (d.floating c .double (← floating))
    | _ =>
      Run.fail (α := Unit)
        ('%' :: text.take (text.length - rest.length) ++ ": invalid directive".toList)
    return rest
where
  /-- An integer of 32 bits. -/
  wrap32 (n : Int) : Int := Int.bmod n 0x100000000

/-- Uses a format once. -/
def once : Nat → Octets → StateT Filling Run Unit
  | 0, _ | _, [] => return
  | fuel + 1, c :: rest => do
    if (← get).ended then return
    match c, rest with
    | '\\', _ =>
      let (b, rest) := Escape.read rest
      Run.print [b]
      once fuel rest
    | '%', '%' :: rest =>
      Run.print ['%']
      once fuel rest
    | '%', _ => once fuel (← directive rest)
    | _, _ =>
      Run.print [c]
      once fuel rest

/-- Uses a format until it takes no more arguments. -/
def all (template : Octets) : Nat → StateT Filling Run Unit
  | 0 => return
  | fuel + 1 => do
    let before := (← get).args.length
    once (template.length + 1) template
    let f ← get
    if f.args.length < before ∧ f.args ≠ [] ∧ !f.ended then all template fuel

end Filling

/-- Prints arguments with a format. -/
def printf : Builtin := fun args => do
  match ← operands args with
  | [] => Run.fail "usage: printf format [arg ...]".toList
  | template :: args =>
    let ((), f) ← (Filling.all template (args.length + 1)).run { args }
    return if f.failed then 1 else 0

end Builtin

end LineShell.Unix.Scripting
