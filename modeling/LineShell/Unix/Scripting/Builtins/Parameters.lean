import LineShell.Unix.Scripting.Builtins.Basic

/-! The builtins that change options, parameters, variables and aliases, or list them. -/

namespace LineShell.Unix.Scripting

open Octets

namespace Run

/-- Turns an option on or off. -/
def setOption (name : String) (on : Bool) : Run Unit :=
  update fun s =>
    let others := s.options.filter (· ≠ name)
    { s with options := if on then name :: others else others }

/-- Turns an option on or off by its letter. -/
def setLetter (letter : Char) (on : Bool) : Run Unit := do
  match optionNames.find? (·.2 == some letter) with
  | some (name, _) => setOption name on
  | none => fail ("Illegal option -".toList ++ [letter])

/-- Lists the options. While a shell starts, all of them seem to be on. -/
def listOptions (atStart inWords : Bool) : Run Unit := do
  if inWords then printLine "Current option settings".toList
  for (name, _) in optionNames do
    let on := atStart || (← isOn name)
    printLine <|
      if inWords then name.toList.rightpad 16 ' ' ++ (if on then "on" else "off").toList
      else "set ".toList ++ (if on then '-' else '+') :: "o ".toList ++ name.toList

/-- Sets options by letters. Those for the start of a shell say whether a script comes as an
argument. -/
def setLetters (atStart on : Bool) (inArgument : Bool) :
    Octets → List Octets → Run (Bool × List Octets)
  | [], args => return (inArgument, args)
  | c :: cs, args =>
    if c = 'c' ∧ atStart then setLetters atStart on true cs args
    else if c = 'l' ∧ atStart then setLetters atStart on inArgument cs args
    else if c = 'o' then
      match args with
      | [] => do
        listOptions atStart on
        setLetters atStart on inArgument cs []
      | name :: args => do
        match optionNames.find? (·.1.toList == name) with
        | some (name, _) => setOption name on
        | none => fail ("Illegal option -o ".toList ++ name)
        setLetters atStart on inArgument cs args
    else do
      setLetter c on
      setLetters atStart on inArgument cs args

/-- Takes options off the arguments and sets them. Says whether a script comes as an argument, and
whether the arguments that are left, even if there are none, are parameters. -/
def setOptions (atStart : Bool) : Nat → Bool → List Octets → Run (Bool × Bool × List Octets)
  | 0, inArgument, args => return (inArgument, false, args)
  | fuel + 1, inArgument, args => do
    match args with
    | ['-'] :: rest =>
      if !atStart then
        setOption "xtrace" false
        setOption "verbose" false
      return (inArgument, false, rest)
    | ['-', '-'] :: rest => return (inArgument, true, rest)
    | (sign :: letters) :: rest =>
      if sign = '-' ∨ sign = '+' then
        let (inArgument, rest) ← setLetters atStart (sign == '-') inArgument letters rest
        setOptions atStart fuel inArgument rest
      else return (inArgument, false, args)
    | _ => return (inArgument, false, args)

/-- Job control needs a terminal, and there is none. Copies of the shell do not try. -/
def refuseControl : Run Unit := do
  let s ← state
  if s.options.contains "monitor" ∧ s.self.pid = s.main then
    warn "can't access tty; job control turned off".toList
    setOption "monitor" false

/-- Gives the parameters new values. -/
def setParameters (params : List Octets) : Run Unit :=
  update ({ · with params, getopts := {} })

/-- Lists variables in order, each with a word in front of it. -/
def listVariables (word : Octets) (test : Variable → Bool) : Run Unit := do
  let all := (← state).vars.filter test
  for v in all.mergeSort fun a b => Octets.le a.name b.name do
    let value := v.value.elim [] fun value => '=' :: Builtin.quote value
    printLine ((if word = [] then [] else word ++ [' ']) ++ v.name ++ value)

/-- Lists an alias. -/
def listAlias (name value : Octets) : Run Unit := printLine (name ++ '=' :: Builtin.quote value)

end Run

namespace Builtin

/-- Sets options and parameters, or lists variables. -/
def set : Builtin := fun args => do
  if args = [] then
    Run.listVariables [] (·.value.isSome)
    return 0
  let (_, always, params) ← Run.setOptions false (args.length + 1) false args
  Run.refuseControl
  if always ∨ params ≠ [] then Run.setParameters params
  return 0

/-- Drops parameters. -/
def shift : Builtin := fun args => do
  let n ← match args with
    | [] => pure 1
    | arg :: _ => Run.number arg
  let params := (← Run.state).params
  if n > params.length then Run.fail (α := Unit) "can't shift that many".toList
  Run.setParameters (params.drop n)
  return 0

/-- Marks variables, perhaps with new values, or lists those with the mark. -/
def marking (word : String) (exported : Bool) : Builtin := fun args => do
  let (options, names) ← options [('p', false)] [] args
  if options ≠ [] ∨ names = [] then
    Run.listVariables word.toList fun v => if exported then v.exported else v.readonly
    return 0
  for arg in names do
    let (name, value) := Run.atEquals arg
    match value, ← Run.known? name with
    | none, some v =>
      Run.place { v with exported := v.exported || exported, readonly := v.readonly || !exported }
    | _, _ => Run.setVariable name value exported !exported
  return 0

/-- Makes variables local to a function. -/
def locals : Builtin := fun args => do
  if (← Run.state).locals = [] then Run.fail (α := Unit) "not in a function".toList
  args.forM fun arg => Run.makeLocal arg
  return 0

/-- Forgets variables or functions. -/
def unset : Builtin := fun args => do
  let (options, names) ← options [('v', false), ('f', false)] [] args
  let functions := options.getLast?.any (·.1 == 'f')
  for name in names do
    if functions then
      Run.update fun s => { s with functions := s.functions.filter (·.name != name) }
    else Run.setVariable name none
  return 0

/-- The next option of some arguments, and how far they have been read then. -/
structure Found where
  letter : Char
  argument : Option Octets
  complaint : Option Octets
  progress : Progress

/-- Looks for the next option. -/
def nextOption (spec : Octets) (args : List Octets) (p : Progress) : Option Found × Progress :=
  let rest := match p.offset with
    | some n => if p.index ≤ 1 then [] else ((args[p.index - 2]?).getD []).drop n
    | none => []
  let (text, index) := match rest, args[p.index - 1]? with
    | _ :: _, _ => (some rest, p.index)
    | [], some ['-', '-'] => (none, p.index + 1)
    | [], some ('-' :: c :: cs) => (some (c :: cs), p.index + 1)
    | [], _ => (none, p.index)
  match text with
  | none | some [] => (none, { index })
  | some (c :: cs) =>
    let quiet := spec.head? = some ':'
    let known := (if quiet then spec.tail else spec).dropWhile (· ≠ c)
    let place : Progress :=
      { index, offset := some (((args[index - 2]?).getD []).length - cs.length) }
    let bad (letter : Char) (complaint : Octets) (progress : Progress) : Found :=
      if quiet then ⟨letter, some [c], none, progress⟩ else ⟨'?', none, some complaint, progress⟩
    match (if c = ':' then [] else known) with
    | [] => (some (bad '?' ("Illegal option -".toList ++ [c]) place), place)
    | _ :: takes =>
      if takes.head? = some ':' then
        match cs, args[index - 1]? with
        | _ :: _, _ => (some ⟨c, some cs, none, { index }⟩, { index })
        | [], some arg => (some ⟨c, some arg, none, { index := index + 1 }⟩, { index := index + 1 })
        | [], none =>
          (some (bad ':' ("No arg for -".toList ++ c :: " option".toList) place), place)
      else (some ⟨c, some [], none, place⟩, place)

/-- Takes the next option off the parameters or other arguments. -/
def getopts : Builtin := fun args => do
  match ← operands args with
  | spec :: name :: others =>
    let s ← Run.state
    let args := if others = [] then s.params else others
    let p := if s.getopts.index > args.length + 1 then {} else s.getopts
    let (found, progress) := nextOption spec args p
    match found with
    | some f =>
      if let some text := f.complaint then Run.tell (text ++ ['\n'])
      Run.assign "OPTARG".toList f.argument
    | none => pure ()
    Run.assign "OPTIND".toList (some (Text.ofNat progress.index))
    Run.setVariable name (some [(found.map (·.letter)).getD '?'])
    Run.update ({ · with getopts := progress })
    return if found.isSome then 0 else 1
  | _ => Run.fail "Usage: getopts optstring var [arg...]".toList

/-- Names texts that stand for the first words of commands, or lists them. -/
def defineAliases : Builtin := fun args => do
  if args = [] then
    let all := (← Run.state).aliases
    for (name, value) in all.mergeSort fun a b => State.bucket a.1 ≤ State.bucket b.1 do
      Run.listAlias name value
    return 0
  let mut status := 0
  for arg in args do
    match Run.atEquals (arg.drop 1) with
    | (_, none) =>
      match (← Run.state).aliases.lookup arg with
      | some value => Run.listAlias arg value
      | none =>
        Run.tell ("alias: ".toList ++ arg ++ " not found\n".toList)
        status := 1
    | (name, some value) =>
      let name := arg.take 1 ++ name
      Run.update fun s =>
        let aliases := if s.aliases.any (·.1 == name) then
            s.aliases.map fun (n, v) => if n = name then (n, value) else (n, v)
          else s.aliases ++ [(name, value)]
        { s with aliases }
  return status

/-- Forgets aliases. -/
def unalias : Builtin := fun args => do
  let (options, names) ← options [('a', false)] [] args
  if options ≠ [] then
    Run.update ({ · with aliases := [] })
    return 0
  let mut status := 0
  for name in names do
    if ((← Run.state).aliases.lookup name).isNone then
      Run.tell ("unalias: ".toList ++ name ++ " not found\n".toList)
      status := 1
    Run.update fun s => { s with aliases := s.aliases.filter (·.1 != name) }
  return status

/-- A byte of input, and whether it may separate fields. -/
abbrev Input := List (Char × Bool)

/-- Reads a line byte by byte. A backslash takes a byte out of the separators, and joins lines; a
line without an end fails. -/
def readLine (raw : Bool) : Nat → Bool → Input → Run (Input × Bool)
  | 0, _, line => return (line.reverse, false)
  | fuel + 1, escaped, line => do
    match ← liftM ((← Run.state).self.read 0 1) with
    | .error .interrupted =>
      Run.receiveAll
      if (← Run.state).pending.isNone then readLine raw fuel escaped line
      else return (line.reverse, false)
    | .ok [c] =>
      if c = '\x00' then readLine raw fuel escaped line
      else if escaped then
        readLine raw fuel false (if c = '\n' then line else (c, false) :: line)
      else if c = '\\' ∧ !raw then readLine raw fuel true line
      else if c = '\n' then return (line.reverse, true)
      else readLine raw fuel false ((c, true) :: line)
    | _ => return (line.reverse, false)

/-- Whether a byte is a blank that separates fields. -/
def separatesAsBlank (ifs : Octets) (c : Char × Bool) : Bool :=
  c.2 && (c.1 == ' ' || c.1 == '\t' || c.1 == '\n') && ifs.contains c.1

/-- The first field, and what follows the separator behind it. -/
def firstField (ifs : Octets) (line : Input) : Input × Input :=
  let separates (c : Char × Bool) : Bool := c.2 && ifs.contains c.1
  let (field, rest) := line.span (!separates ·)
  let rest := rest.dropWhile (separatesAsBlank ifs)
  match rest with
  | c :: behind =>
    if separates c then (field, behind.dropWhile (separatesAsBlank ifs)) else (field, rest)
  | [] => (field, [])

/-- Gives fields to variables, and to the last one all that is left. -/
def giveFields (ifs : Octets) (line : Input) : List Octets → Run Unit
  | [] => return
  | [name] => do
    let (field, rest) := firstField ifs line
    let value := if rest = [] then field
      else (line.reverse.dropWhile (separatesAsBlank ifs)).reverse
    Run.setVariable name (some (value.map (·.1)))
  | name :: more => do
    let (field, rest) := firstField ifs line
    Run.setVariable name (some (field.map (·.1)))
    giveFields ifs rest more

/-- Reads a line into variables. -/
def read : Builtin := fun args => do
  let (options, names) ← options [('p', true), ('r', false)] [] args
  if names = [] then Run.fail (α := Unit) "arg count".toList
  let (line, whole) ← readLine (options.any (·.1 == 'r')) maxSteps false []
  let ifs := (← Run.value? "IFS".toList).getD " \t\n".toList
  giveFields ifs (line.dropWhile (separatesAsBlank ifs)) names
  return if whole then 0 else 1

end Builtin

end LineShell.Unix.Scripting
