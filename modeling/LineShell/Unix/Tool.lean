import LineShell.Unix.Date.Zone
import LineShell.Unix.Options
import LineShell.Unix.Quoting
import LineShell.Unix.Transfer

/-! What the tools have in common: a process that collects what it prints, complains under its own
name, and exits with a code. What was printed is written before a complaint and at the end; if that
fails the exit code tells. -/

namespace LineShell.Unix

/-- What a tool has printed but not yet written. -/
structure Desk where
  /-- Printed bytes, the last ones first. -/
  printed : Octets := []
  size : Nat := 0
  /-- Whether a write of printed bytes has failed. -/
  failed : Bool := false

/-- The work of a tool, which may end before it is done. -/
abbrev Tool := ReaderT Process (ExceptT ExitStatus (StateT Desk Task))

namespace Tool

/-- Makes a request of the machine. -/
def ask {α : Type} (request : Process → StateM Machine α) : Tool α := fun p =>
  ExceptT.mk fun d m =>
    let (answer, m) := request p m
    .done (.ok answer, d) m

/-- All files. -/
def files : Tool FileSystem := ask fun _ => return (← get).files

/-- Changes the files in a way that cannot be refused. -/
def adjust (f : FileSystem → FileSystem) : Tool Unit :=
  ask fun _ => modify fun m => { m with files := f m.files }

/-- Changes the files, unless that is refused. -/
def change (f : Process → FileSystem → Except Reason FileSystem) : Tool (Except Reason Unit) :=
  ask fun p => Machine.change (f p)

/-- The zone whose clocks count. -/
def zone : Tool Zone := return Zone.ofSetting ((← read).getenv? "TZ")

/-- Ends at once. -/
def leave {α : Type} (status : ExitStatus) : Tool α := throw status

/-- Takes the signals that have come. -/
def heed : Tool Unit := do
  for signal in ← ask fun p => Machine.takeSignals p.pid do
    if signal = 9 ∨ !(← read).ignored.contains signal ∧ !Machine.harmless.contains signal then
      leave (.signal signal false)

/-- Reads at most so many bytes. -/
def take (fd limit : Nat) : Tool (Except Reason Octets) := do
  (← read).readPatiently fd limit heed

/-- Writes to a descriptor. A pipe without a reader ends the process. -/
def write (fd : Nat) (bytes : Octets) : Tool (Except Reason Unit) := do
  match ← (← read).writeAll fd heed bytes with
  | .error .brokenPipe =>
    if (← read).ignored.contains 13 then return .error .brokenPipe else leave (.signal 13 false)
  | answer => return answer

/-- Remembers that something could not be printed. -/
def lose : Tool Unit := modify ({ · with failed := true })

/-- Writes what was printed. -/
def flush : Tool (Except Reason Unit) := do
  let d ← get
  if d.printed = [] then return .ok ()
  set { d with printed := [], size := 0 }
  match ← write 1 d.printed.reverse with
  | .ok () => return .ok ()
  | .error e =>
    lose
    return .error e

/-- The most bytes that are kept before they are written. -/
def bufferSize : Nat := 4096

/-- Prints to standard output. -/
def print (bytes : Octets) : Tool Unit := do
  modify fun d =>
    { d with printed := bytes.reverse ++ d.printed, size := d.size + bytes.length }
  if (← get).size ≥ bufferSize then discard flush

/-- Prints a line. -/
def printLine (bytes : Octets) : Tool Unit := print (bytes ++ ['\n'])

/-- A line on the error stream. -/
def tell (line : Octets) : Tool Unit := discard <| write 2 (line ++ ['\n'])

/-- A complaint under the name of the program, with a reason. -/
def complain (text : Octets) (reason : Option Reason := none) : Tool Unit := do
  discard flush
  let reason := match reason with
    | some e => ": ".toList ++ e.text
    | none => []
  tell ((← read).name ++ ": ".toList ++ text ++ reason)

/-- Complains and exits with a code. -/
def fail {α : Type} (code : Nat) (text : Octets) (reason : Option Reason := none) : Tool α := do
  complain text reason
  leave (.code code)

/-- Points to the help text and exits with a code. -/
def pointToHelp {α : Type} (code : Nat) : Tool α := do
  tell ("Try '".toList ++ (← read).name ++ " --help' for more information.".toList)
  leave (.code code)

/-- Complains about the arguments and exits with a code. -/
def misuse {α : Type} (code : Nat) (text : Octets) : Tool α := do
  complain text
  pointToHelp code

/-- Reads options; after a wrong one the program exits with a code. The options before it are dealt
with first. -/
def options {σ : Type} (code : Nat) (switches : List Switch) (start : σ)
    (step : σ → Choice → Tool σ) (ordered : Bool := false) : Tool (σ × List Octets) := do
  let p ← read
  let o := Options.read switches (ordered || (p.getenv? "POSIXLY_CORRECT").isSome) p.args
  let settings ← o.choices.foldlM step start
  match o.problem with
  | some text =>
    tell (p.name ++ ": ".toList ++ text)
    pointToHelp code
  | none => return (settings, o.operands)

/-- The meaning of a word that an option takes. Words may be shortened as long as they stay
unambiguous. -/
def word {α : Type} [BEq α] (option : String) (table : List (α × List String)) (word : Octets) :
    Tool α := do
  let all := table.flatMap fun (a, names) => names.map (·, a)
  let bad (how : String) : Tool α := do
    complain (how.toList ++ " argument ".toList ++ quoteEscaped word ++ " for '".toList ++
      option.toList ++ ['\''])
    tell ("Valid arguments are:".toList ++ table.flatMap fun (_, names) =>
      "\n  - ".toList ++ ", ".toList.intercalate (names.map fun n => quoteEscaped n.toList))
    pointToHelp 1
  match all.find? (·.1.toList == word),
      all.filter fun (n, _) => (Octets.after? word n.toList).isSome with
  | some (_, a), _ => return a
  | none, (_, a) :: others => if others.all (·.2 == a) then return a else bad "ambiguous"
  | none, [] => bad "invalid"

/-- Deals with operands one after the other, and says whether all of them went well. -/
def forEach (operands : List Octets) (action : Octets → Tool Bool) : Tool Bool :=
  operands.foldlM (fun ok operand => return (← action operand) && ok) true

/-- Closes standard output, with a complaint if something printed was lost. -/
def close (failure code : Nat) : Tool Nat := do
  let broken := (← get).failed
  match ← flush with
  | .error e => fail failure "write error".toList e
  | .ok () => if broken then fail failure "write error".toList else return code

/-- Runs a tool to its end. The first code is that of failures to write. -/
def run (tool : Tool Nat) (p : Process) (failure : Nat := 1) : Task ExitStatus := do
  let done : Tool Nat := do
    heed
    let code ← tryCatch tool fun
      | .code code => return code
      | status => throw status
    close failure code
  match ← ((done p).run.run' {} : Task _) with
  | .ok code => return .code code
  | .error status => return status

end Tool

end LineShell.Unix
