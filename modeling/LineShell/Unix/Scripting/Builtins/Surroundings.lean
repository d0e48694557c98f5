import LineShell.Unix.Scripting.Builtins.Basic

/-! The builtins that deal with the working directory, the mask of new files, and limits. The path
of the working directory is kept as it was reached; names and dots on it are resolved without asking
the file system. -/

namespace LineShell.Unix.Scripting

open Octets

/-- The path that a path from a directory leads to, with its dots resolved. -/
def resolveDots (directory path : Octets) : Octets :=
  let (front, from_) : Octets × Octets :=
    if path.head? = some '/' then
      (if path.take 2 = ['/', '/'] ∧ path[2]? ≠ some '/' then ['/', '/'] else ['/'], [])
    else
      (if directory.take 2 = ['/', '/'] then ['/', '/'] else ['/'], directory)
  let names := (FileSystem.names from_ ++ FileSystem.names path).foldl (fun names name =>
    if name = ['.'] then names
    else if name = ['.', '.'] then names.drop 1
    else name :: names) []
  front ++ ['/'].intercalate names.reverse

namespace Run

/-- The path of the working directory as the file system knows it. -/
def physicalDirectory : Run Octets := do
  match (← files).pathOf (← state).self.dir with
  | .ok path => return path
  | .error e =>
    warn ("getcwd() failed: ".toList ++ e.text)
    return []

/-- Remembers the path of the working directory. -/
def setDirectory (path : Option Octets) (keepsOld : Bool) : Run Unit := do
  if keepsOld then
    setVariable "OLDPWD".toList (some ((← state).directory.getD [])) true
  let path ← match path with
    | some path => pure path
    | none => physicalDirectory
  update ({ · with directory := some path })
  setVariable "PWD".toList (some path) true

/-- Changes the working directory, if there is such a directory. -/
def changeDirectory (physical : Bool) (path : Octets) : Run Bool := do
  let current := (← state).directory.getD []
  let resolved :=
    if physical ∨ path.head? ≠ some '/' ∧ current = [] then none
    else some (resolveDots current path)
  match (← files).workplace (← state).self.dir (resolved.getD path) with
  | .error _ => return false
  | .ok dir =>
    update fun s => { s with self := { s.self with dir } }
    setDirectory resolved true
    return true

end Run

namespace Builtin

/-- Whether the options ask for the path as the file system knows it. -/
def asksPhysical (args : List Octets) : Run (Bool × List Octets) := do
  let (options, args) ← options [('L', false), ('P', false)] [] args
  return (options.getLast?.any (·.1 == 'P'), args)

/-- Whether a path is looked for in the working directory only. -/
def isAnchored (path : Octets) : Bool :=
  path.head? == some '/' || [".", ".."].any fun dots =>
    match after? dots.toList path with
    | some rest => rest.head?.all (· == '/')
    | none => false

/-- Changes the working directory. -/
def cd : Builtin := fun args => do
  let (physical, args) ← asksPhysical args
  let (target, shown) ← match args with
    | [] => pure ((← Run.value? "HOME".toList).getD [], false)
    | ['-'] :: _ => pure ((← Run.value? "OLDPWD".toList).getD [], true)
    | arg :: _ => pure (arg, false)
  let show_ (shown : Bool) : Run Nat := do
    if shown then Run.printLine ((← Run.state).directory.getD [])
    return 0
  if !isAnchored target then
    let target := if target = [] then ['.'] else target
    for directory in Text.cut ':' ((← Run.value? "CDPATH".toList).getD []) do
      let path := if directory = [] then target else directory ++ '/' :: target
      match ← Run.ask (·.stat path) with
      | .ok facts =>
        if facts.kind = .directory then
          if !(← Run.changeDirectory physical path) then
            Run.fail (α := Unit) ("can't cd to ".toList ++ target)
          return ← show_ (shown || directory ≠ [])
      | .error _ => pure ()
  if !(← Run.changeDirectory physical target) then
    Run.fail (α := Unit) ("can't cd to ".toList ++ target)
  show_ shown

/-- Prints the path of the working directory. -/
def pwd : Builtin := fun args => do
  let (physical, _) ← asksPhysical args
  let logical := (← Run.state).directory.getD []
  let path ← if physical then Run.physicalDirectory else pure logical
  Run.printLine path
  return 0

/-- The permissions that letters give to one user, as far as a mask that is not taken away. -/
def permissions (granted : Nat) (letters : Octets) : Nat :=
  letters.foldl (fun bits c => bits ||| match c with
    | 'r' => 4
    | 'w' => 2
    | 'x' => 1
    | 'u' => granted / 64 % 8
    | 'g' => granted / 8 % 8
    | 'o' => granted % 8
    | 'X' => if granted &&& 0o111 = 0 then 0 else 1
    | _ => 0) 0

/-- What is granted after clauses such as `g+w` have been applied. -/
def grant (before : Nat) : Nat → Nat → Nat → Octets → Option Nat
  | 0, _, granted, _ => some granted
  | fuel + 1, users, granted, text =>
    if text = [] then some granted
    else
      let who := text.takeWhile ("augo".toList.contains ·)
      let users := who.foldl (fun bits c => bits ||| match c with
        | 'a' => 0o111
        | 'u' => 0o100
        | 'g' => 0o010
        | _ => 0o001) users
      let users := if users = 0 then 0o111 else users
      match text.drop who.length with
      | op :: rest =>
        if op ≠ '=' ∧ op ≠ '+' ∧ op ≠ '-' then none
        else
          let letters := rest.takeWhile ("rwxugoXs".toList.contains ·)
          let bits := permissions before letters % 8 * users
          let without (mask : Nat) : Nat := granted &&& (0o777 ^^^ mask)
          let granted := match op with
            | '-' => without bits
            | '=' => bits ||| without (users * 7)
            | _ => granted ||| bits
          match rest.drop letters.length with
          | [] => some granted
          | ',' :: more => grant before fuel 0 granted more
          | c :: more =>
            if c = '=' ∨ c = '+' ∨ c = '-' then grant before fuel users granted (c :: more)
            else none
      | [] => some granted

/-- Prints or sets the permissions that new files are not given. -/
def umask : Builtin := fun args => do
  let (options, args) ← options [('S', false)] [] args
  let mask := (← Run.state).self.umask
  let setMask (mask : Nat) : Run Nat := do
    Run.update fun s => { s with self := { s.self with umask := mask &&& 0o777 } }
    return 0
  match args with
  | [] =>
    if options = [] then Run.printLine (inBase 8 4 mask)
    else
      let letters (user : Char) (bits : Nat) : Octets :=
        let kept := bits % 8
        user :: '=' :: ([('r', 4), ('w', 2), ('x', 1)].filterMap fun (c, bit) =>
          if kept &&& bit = 0 then some c else none)
      Run.printLine ([','].intercalate
        [letters 'u' (mask / 64), letters 'g' (mask / 8), letters 'o' mask])
    return 0
  | text :: _ =>
    if text.head?.any isDigit then
      if text.any fun c => (digit? 8 c).isNone then Run.badNumber text
      setMask (digits 8 0 text).1
    else
      let before := 0o777 ^^^ mask
      match grant before (text.length + 1) 0 before text with
      | some granted => setMask (0o777 ^^^ granted)
      | none => Run.fail ("Illegal mode: ".toList ++ text)

/-- A kind of limit: its letter, what it is for, and the unit in which it is counted. -/
structure LimitKind where
  letter : Char
  resource : Resource
  name : String
  unit : Nat

/-- The limits that can be asked for. -/
def limitKinds : List LimitKind := [
  ⟨'t', .time, "time(seconds)", 1⟩, ⟨'f', .fileSize, "file(blocks)", 512⟩,
  ⟨'d', .data, "data(kbytes)", 1024⟩, ⟨'s', .stack, "stack(kbytes)", 1024⟩,
  ⟨'c', .core, "coredump(blocks)", 512⟩, ⟨'m', .residentMemory, "memory(kbytes)", 1024⟩,
  ⟨'l', .lockedMemory, "locked memory(kbytes)", 1024⟩, ⟨'p', .processes, "process", 1⟩,
  ⟨'n', .openFiles, "nofiles", 1⟩, ⟨'v', .memory, "vmemory(kbytes)", 1024⟩,
  ⟨'w', .locks, "locks", 1⟩, ⟨'r', .priority, "rtprio", 1⟩]

/-- Whether one bound lets through at least as much as another. -/
def isWithin (a b : Option Nat) : Bool :=
  match a, b with
  | _, none => true
  | none, some _ => false
  | some a, some b => a ≤ b

/-- Sets a limit. The second bound can only be lowered. -/
def setLimit (resource : Resource) (before limit : Limit) : Run Unit := do
  let refuse (e : Reason) : Run Unit :=
    Run.fail ("error setting limit (".toList ++ e.text ++ [')'])
  if !isWithin limit.soft limit.hard then refuse .invalid
  else if !isWithin limit.hard before.hard then refuse .notPermitted
  else Run.update fun s =>
    let others := s.self.limits.filter (·.1 ≠ resource)
    { s with self := { s.self with limits := (resource, limit) :: others } }

/-- Prints or sets limits. -/
def ulimit : Builtin := fun args => do
  let letters := "HSa".toList ++ limitKinds.map (·.letter)
  let (options, args) ← options (letters.map (·, false)) [] args
  let letter := ((options.reverse.find? fun o => !"HSa".toList.contains o.1).map (·.1)).getD 'f'
  let how := (options.reverse.find? fun o => o.1 = 'H' ∨ o.1 = 'S').map (·.1)
  let all := options.any (·.1 == 'a')
  let text (kind : LimitKind) : Run Octets := do
    let limit := (← Run.state).self.limit kind.resource
    let bound := if how = some 'H' then limit.hard else limit.soft
    return bound.elim "unlimited".toList fun n => Text.ofNat (n / kind.unit)
  if all ∧ args ≠ [] ∨ args.length > 1 then Run.fail (α := Unit) "too many arguments".toList
  match args, limitKinds.find? (·.letter == letter) with
  | value :: _, some kind =>
    if value ≠ "unlimited".toList ∧ value.any (!isDigit ·) then
      Run.fail (α := Unit) "bad number".toList
    let bound := if value = "unlimited".toList then none
      else some ((digits 10 0 value).1 * kind.unit)
    let before := (← Run.state).self.limit kind.resource
    setLimit kind.resource before {
      soft := if how = some 'H' then before.soft else bound
      hard := if how = some 'S' then before.hard else bound }
  | _, kind =>
    if all then
      for kind in limitKinds do
        Run.printLine (kind.name.toList.rightpad 20 ' ' ++ ' ' :: (← text kind))
    else kind.forM fun kind => do Run.printLine (← text kind)
  return 0

/-- Prints the time that was used, which is none. -/
def times : Builtin := fun _ => do
  let line := "0m0.000000s 0m0.000000s".toList
  Run.printLine line
  Run.printLine line
  return 0

end Builtin

end LineShell.Unix.Scripting
