import LineShell.Unix.Exec
import LineShell.Unix.Numeral
import LineShell.Unix.Scripting.Parser

/-! What a shell knows while it runs a script, and what all of its parts do: complaining, printing,
and looking after variables. What was printed is written when the builtin that printed it is done.
-/

namespace LineShell.Unix.Scripting

/-- A variable. One without a value is not set, but may already have been marked. -/
structure Variable where
  name : Octets
  value : Option Octets
  exported : Bool := false
  readonly : Bool := false
  /-- Is still known when it is not set. -/
  permanent : Bool := false

/-- What has to be put back at the end of a function or a command. -/
inductive Saved
  | variable (name : Octets) (before : Option Variable)
  | options (before : List String)

/-- Commands that are passed over. -/
inductive Skip
  | nothing
  | leaveLoop
  | nextRound
  /-- The rest of a function; it was said with which status it ends, or not. -/
  | function (explicit : Bool)
  deriving DecidableEq, Repr

/-- A command that was started in the background. -/
structure Job where
  /-- Its number among the jobs of the shell. -/
  number : Nat
  /-- The processes in the order of the pipeline, with how they have ended as far as that is
  known. -/
  processes : List (Nat × Option ExitStatus)
  /-- Whether it was waited for, so that its number can be given to another one. -/
  waited : Bool := false

/-- How a job has ended, if the shell knows that it has. -/
def Job.status? (job : Job) : Option ExitStatus :=
  if job.processes.all (·.2.isSome) then job.processes.getLast?.bind (·.2) else none

/-- A function. -/
structure Function where
  name : Octets
  line : Nat
  body : Command

/-- Where `getopts` is in the arguments. -/
structure Progress where
  index : Nat := 1
  /-- The place in the argument before that, if it holds more options. -/
  offset : Option Nat := none

/-- What a shell knows. -/
structure State where
  self : Process
  /-- The number of the shell that was started first. -/
  main : Nat
  /-- The name of the script. -/
  name : Octets
  params : List Octets := []
  getopts : Progress := {}
  vars : List Variable := []
  functions : List Function := []
  aliases : List (Octets × Octets) := []
  documents : Array Word := #[]
  /-- The names of the options that are on. -/
  options : List String := []
  status : Nat := 0
  /-- The status to exit with, while traps are run. -/
  savedStatus : Option Nat := none
  /-- The status of the last command whose output was put in its place. -/
  outputStatus : Nat := 0
  skip : Skip := .nothing
  skipCount : Nat := 0
  loops : Nat := 0
  depth : Nat := 0
  line : Nat := 0
  /-- The line up to which the script has been read. -/
  readLine : Nat := 1
  /-- The builtin that is running. -/
  builtin : Option Octets := none
  traps : List (Nat × Octets) := []
  /-- Signals whose traps are still to be run. -/
  caught : List Nat := []
  /-- The last of them, as long as nobody has looked at them. -/
  pending : Option Nat := none
  locals : List (List Saved) := []
  last : Option Nat := none
  /-- The jobs, the last one first. -/
  jobs : List Job := []
  /-- The path of the working directory as it was reached. -/
  directory : Option Octets := none
  /-- Printed bytes, the last ones first. -/
  printed : Octets := []
  /-- Something printed could not be written. -/
  lost : Bool := false
  /-- Where programs were found. -/
  found : List (Octets × Octets) := []
  /-- The number of commands that were run under limits. -/
  worked : Nat := 0

/-- The options by name, with the letters that some of them have. -/
def optionNames : List (String × Option Char) := [
  ("errexit", some 'e'), ("noglob", some 'f'), ("ignoreeof", some 'I'), ("interactive", some 'i'),
  ("monitor", some 'm'), ("noexec", some 'n'), ("stdin", some 's'), ("xtrace", some 'x'),
  ("verbose", some 'v'), ("vi", some 'V'), ("emacs", some 'E'), ("noclobber", some 'C'),
  ("allexport", some 'a'), ("notify", some 'b'), ("nounset", some 'u'), ("privileged", some 'p'),
  ("nolog", none), ("debug", none)]

/-- Whether somebody is asked for commands. Copies of a shell ask nobody. -/
def State.isInteractive (s : State) : Bool :=
  s.options.contains "interactive" && s.self.pid == s.main

/-- Why a shell stops. -/
inductive Stop
  | error
  /-- The user of an interactive shell wants to be asked again. -/
  | interrupted
  | exit
  | done
  | killed (signal : Nat)
  /-- Another program took its place and ended. -/
  | replaced (status : ExitStatus)
  deriving DecidableEq, Repr

/-- The work of a shell. -/
abbrev Run := ExceptT Stop (StateT State Task)

namespace Run

/-- What the shell knows. -/
def state : Run State := get

/-- Changes what the shell knows. -/
def update (f : State → State) : Run Unit := modify f

/-- Makes a request of the machine. -/
def ask {α : Type} (request : Process → StateM Machine α) : Run α :=
  ExceptT.mk fun s m =>
    let (answer, m) := request s.self m
    .done (.ok answer, s) m

/-- All files. -/
def files : Run FileSystem := ask fun _ => return (← get).files

/-- Whether an option is on. -/
def isOn (option : String) : Run Bool := return (← state).options.contains option

/-- Signals that end no interactive shell. -/
def endured : List Nat := [3, 15]

/-- The signal by which a user interrupts what is going on. -/
def interruptSignal : Nat := 2

/-- Takes a signal. -/
def receive (signal : Nat) : Run Unit := do
  let s ← state
  if signal = 9 then throw (.killed 9)
  else if s.self.ignored.contains signal then return
  else
    match s.traps.lookup signal with
    | some _ => update fun s => { s with
        caught := s.caught.filter (· ≠ signal) ++ [signal], pending := some signal }
    | none =>
      if s.isInteractive ∧ signal = interruptSignal then throw .interrupted
      else if !(s.isInteractive && endured.contains signal) ∧ !Machine.harmless.contains signal then
        throw (.killed signal)

/-- Takes the signals that have come. -/
def receiveAll : Run Unit := do
  let signals ← ask fun p => Machine.takeSignals p.pid
  signals.forM receive

/-- Reads at most so many bytes. -/
def take (fd limit : Nat) : Run (Except Reason Octets) := do
  (← state).self.readPatiently fd limit receiveAll

/-- Writes to a descriptor. -/
def write (fd : Nat) (bytes : Octets) : Run (Except Reason Unit) := do
  match ← (← state).self.writeAll fd receiveAll bytes with
  | .error .brokenPipe =>
    receive 13
    return .error .brokenPipe
  | answer => return answer

/-- Writes what was printed. -/
def flush : Run Unit := do
  let s ← state
  if s.printed ≠ [] then
    update ({ · with printed := [] })
    match ← write 1 s.printed.reverse with
    | .ok () => return
    | .error _ => update ({ · with lost := true })

/-- Prints to standard output. -/
def print (bytes : Octets) : Run Unit :=
  update fun s => { s with printed := bytes.reverse ++ s.printed }

/-- Prints a line. -/
def printLine (bytes : Octets) : Run Unit := print (bytes ++ ['\n'])

/-- Writes to the error stream. -/
def tell (bytes : Octets) : Run Unit := discard <| write 2 bytes

/-- A complaint. -/
def warn (text : Octets) : Run Unit := do
  let s ← state
  let builtin := match s.builtin with
    | some name => name ++ ": ".toList
    | none => []
  tell (s.name ++ ": ".toList ++ Text.ofNat s.line ++ ": ".toList ++ builtin ++ text ++ ['\n'])

/-- Complains, and stops with a status. -/
def stop {α : Type} (reason : Stop) (status : Nat) (text : Octets) : Run α := do
  update ({ · with status })
  warn text
  flush
  throw reason

/-- Complains about an error. -/
def fail {α : Type} (text : Octets) : Run α := stop .error 2 text

/-- Stops at something that is no number. -/
def badNumber {α : Type} (text : Octets) : Run α := fail ("Illegal number: ".toList ++ text)

/-- An integer, with blanks around it. -/
def integer (text : Octets) (decimal : Bool := true) : Run Int := do
  match Numeral.read? text decimal with
  | none => if decimal ∨ text.any fun c => !Octets.isSpace c then badNumber text else return 0
  | some n =>
    let (value, outOfRange) := Numeral.clampSigned n.value
    if outOfRange ∨ n.rest.any fun c => !Octets.isSpace c then badNumber text
    return value

/-- A number that is not below zero and not too large. -/
def number (text : Octets) : Run Nat := do
  let n ← integer text
  if n < 0 ∨ n > 0x7FFFFFFF then badNumber text
  return n.toNat

/-- A variable by name. -/
def known? (name : Octets) : Run (Option Variable) :=
  return (← state).vars.find? (·.name == name)

/-- The value of a variable. -/
def value? (name : Octets) : Run (Option Octets) := return (← known? name).bind (·.value)

/-- Puts a variable in the place of one with the same name, or behind all others. -/
def place (v : Variable) : Run Unit :=
  update fun s =>
    if s.vars.any (·.name == v.name) then
      { s with vars := s.vars.map fun w => if w.name = v.name then v else w }
    else { s with vars := s.vars ++ [v] }

/-- What follows from a new value of a variable. -/
def notice (name : Octets) (value : Option Octets) : Run Unit :=
  if name = "OPTIND".toList then
    let n := (value.bind fun v => Numeral.read? v true).elim 0 (·.value.toNat)
    update ({ · with getopts := { index := max n 1 } })
  else if name = "PATH".toList then update ({ · with found := [] })
  else return

/-- Gives a variable a value, or none, and marks. -/
def assign (name : Octets) (value : Option Octets) (exported readonly permanent : Bool := false) :
    Run Unit := do
  let exported := exported || (← isOn "allexport")
  match ← known? name with
  | some v =>
    if v.readonly then fail (name ++ ": is read only".toList)
    notice name value
    if value.isNone ∧ !exported ∧ !readonly ∧ !permanent ∧ !v.permanent then
      update fun s => { s with vars := s.vars.filter (·.name != name) }
    else
      place { v with
        value
        exported := v.exported || exported
        readonly := readonly
        permanent := v.permanent || permanent }
  | none =>
    if value.isSome ∨ exported ∨ readonly ∨ permanent then
      place ⟨name, value, exported, readonly, permanent⟩

/-- Gives a value to something that should be the name of a variable, as far as an equals sign. -/
def setVariable (name : Octets) (value : Option Octets) (exported readonly : Bool := false) :
    Run Unit := do
  let name := name.takeWhile (· ≠ '=')
  if isName name then assign name value exported readonly
  else fail (name ++ ": bad variable name".toList)

/-- Parts a text at the first equals sign. -/
def atEquals (text : Octets) : Octets × Option Octets :=
  match text.span (· ≠ '=') with
  | (name, _ :: value) => (name, some value)
  | (name, []) => (name, none)

/-- Remembers something that is put back at the end of the innermost function or command. -/
def remember (saved : Saved) : Run Unit :=
  update fun s => { s with locals := s.locals.modifyHead (saved :: ·) }

/-- Makes a variable local, perhaps with a value. -/
def makeLocal (text : Octets) (exported : Bool := false) : Run Unit := do
  let (name, value) := atEquals text
  if text = ['-'] then remember (.options (← state).options)
  else
    let before ← known? name
    match before with
    | none =>
      if value.isNone ∧ !isName name then fail (name ++ ": bad variable name".toList)
      assign name value exported false true
    | some v =>
      place { v with permanent := true }
      if value.isSome then assign name value exported
    remember (.variable name before)

/-- Puts back what was remembered. -/
def restoreOne : Saved → Run Unit
  | .options before => update ({ · with options := before })
  | .variable name none => do
    if !isName name then fail (name ++ ": bad variable name".toList)
    update fun s => { s with vars := s.vars.filter (·.name != name) }
  | .variable name (some v) => do
    notice name v.value
    place v

/-- Starts to remember what has to be put back. -/
def pushLocals : Run Unit := update fun s => { s with locals := [] :: s.locals }

/-- Puts back all that was remembered since then. -/
def popLocals : Run Unit := do
  match (← state).locals with
  | [] => return
  | saved :: rest =>
    update ({ · with locals := rest })
    saved.forM restoreOne

/-- Does something, and something else whatever came of it. -/
def always {α : Type} (work : Run α) (after : Run Unit) : Run α := do
  try
    let a ← work
    after
    return a
  catch reason =>
    after
    throw reason

end Run

namespace State

/-- The place of a name in a table of some size. -/
def bucketOf (size : Nat) (name : Octets) : Nat :=
  (name.foldl (fun n c => n + c.toNat) ((name.headD '\x00').toNat * 16)) % 0x8000 % size

/-- The order in which variables are listed goes by this number. -/
def bucket (name : Octets) : Nat := bucketOf 39 name

/-- The variables that programs are given. -/
def environment (s : State) : List (Octets × Octets) :=
  let exported := s.vars.filterMap fun v =>
    if v.exported then v.value.map (v.name, ·) else none
  exported.mergeSort fun a b => bucket a.1 ≤ bucket b.1

/-- The options that are on, as letters. -/
def optionLetters (s : State) : Octets :=
  optionNames.reverse.filterMap fun (name, letter) =>
    if s.options.contains name then letter else none

/-- The places where programs are looked for. -/
def path (s : State) : Octets :=
  ((s.vars.find? (·.name == "PATH".toList)).bind (·.value)).getD []

end State

end LineShell.Unix.Scripting
