import LineShell.Unix.Tool

/-! Printing the arguments: `echo`, and `printenv` for the environment. -/

namespace LineShell.Unix

open Octets

/-- Escapes that stand for one byte. -/
def controlEscapes : List (Char × Nat) := [
  ('a', 7), ('b', 8), ('e', 27), ('f', 12), ('n', 10), ('r', 13), ('t', 9), ('v', 11),
  ('\\', 92)]

/-- A byte by number; larger numbers lose their high bits. -/
def byte (n : Nat) : Char := Char.ofNat (n % 256)

namespace Echo

/-- What a backslash in front of a text that is not empty stands for, and what is left. -/
def escape (c : Char) (rest : Octets) : Octets × Octets :=
  match controlEscapes.lookup c with
  | some n => ([byte n], rest)
  | none =>
    if c = 'x' then
      let (n, behind) := digitsUpTo 16 2 0 rest
      if behind.length < rest.length then ([byte n], behind) else (['\\', 'x'], rest)
    else if c = '0' then
      let (n, behind) := digitsUpTo 8 3 0 rest
      ([byte n], behind)
    else
      match digit? 8 c with
      | some d =>
        let (n, behind) := digitsUpTo 8 2 d rest
        ([byte n], behind)
      | none => (['\\', c], rest)

theorem length_escape_le (c : Char) (rest : Octets) :
    (escape c rest).2.length ≤ rest.length := by
  unfold escape
  have := length_digitsUpTo_le
  split
  · simp
  · split
    · dsimp only
      split
      · exact this ..
      · simp
    · split
      · exact this ..
      · split
        · exact this ..
        · simp

/-- A text with its escapes resolved, and whether it goes on to its end: `\c` cuts it off. -/
def unescape : Octets → Octets × Bool
  | [] => ([], true)
  | ['\\'] => (['\\'], true)
  | '\\' :: 'c' :: _ => ([], false)
  | '\\' :: c :: rest =>
    have := length_escape_le c rest
    let more := unescape (escape c rest).2
    ((escape c rest).1 ++ more.1, more.2)
  | c :: rest =>
    let more := unescape rest
    (c :: more.1, more.2)
termination_by text => text.length
decreasing_by
  · simp_all only [List.length_cons]
    omega
  · simp

/-- How arguments are printed. -/
structure Style where
  newline : Bool := true
  escapes : Bool := false

/-- Takes the options off the arguments; the first argument that is none ends them. -/
def takeOptions (style : Style) : List Octets → Style × List Octets
  | ('-' :: c :: cs) :: rest =>
    if (c :: cs).all ("neE".toList.contains ·) then
      let style := (c :: cs).foldl (fun s c =>
        if c = 'n' then { s with newline := false } else { s with escapes := c == 'e' }) style
      takeOptions style rest
    else (style, ('-' :: c :: cs) :: rest)
  | args => (style, args)

end Echo

/-- Prints the arguments with blanks between them. -/
def Tool.echo : Tool Nat := do
  let p ← read
  let strict := (p.getenv? "POSIXLY_CORRECT").isSome
  let (style, args) :=
    if strict ∧ p.args.head? ≠ some ['-', 'n'] then ({}, p.args) else Echo.takeOptions {} p.args
  let line := [' '].intercalate args ++ if style.newline then ['\n'] else []
  Tool.print (if style.escapes || strict then (Echo.unescape line).1 else line)
  return 0

/-- Prints the values of environment variables, or all variables. -/
def Tool.printenv : Tool Nat := do
  let p ← read
  let switches : List Switch := [⟨['0'], ["null"], .none⟩, ⟨[], ["help"], .none⟩,
    ⟨[], ["version"], .none⟩]
  let (terminator, names) ← Tool.options 2 switches '\n' (fun _ _ => return '\x00') true
  if names = [] then
    for (name, value) in p.environment do Tool.print (name ++ '=' :: value ++ [terminator])
    return 0
  let mut matched := 0
  for name in names do
    let values := p.environment.filter (·.1 = name)
    for (_, value) in values do Tool.print (value ++ [terminator])
    if values ≠ [] then matched := matched + 1
  return if matched = names.length then 0 else 1

end LineShell.Unix
