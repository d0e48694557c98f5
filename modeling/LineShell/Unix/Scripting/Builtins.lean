import LineShell.Unix.Scripting.Builtins.Condition
import LineShell.Unix.Scripting.Builtins.Jobs
import LineShell.Unix.Scripting.Builtins.Parameters
import LineShell.Unix.Scripting.Builtins.Printing
import LineShell.Unix.Scripting.Builtins.Surroundings

/-! Commands by name: keywords, functions, builtins and programs, in this order. -/

namespace LineShell.Unix.Scripting

/-- Commands that belong to the shell. -/
inductive Internal
  /-- One that needs no more than its arguments. -/
  | simple (run : Builtin)
  | command
  | eval
  | exec
  | source
  | hash
  /-- One that describes commands. -/
  | describe

/-- What a name stands for as a command. -/
inductive Meaning
  | function (f : Function)
  | builtin (b : Internal)
  | program
  /-- Nothing, for a reason. -/
  | nothing (e : Reason)

namespace Run

/-- The path of a program, or why there is none. -/
def search (path name : Octets) : Run (Except Reason Octets) := do
  let step (answer : Except Reason Octets) (candidate : Octets) : Run (Except Reason Octets) := do
    match answer with
    | .ok _ => return answer
    | .error reason =>
      match ← ask (·.stat candidate) with
      | .error .noEntry | .error .notDirectory => return .error reason
      | .error e => return .error e
      | .ok facts =>
        return if facts.kind = .regular ∧ facts.mode &&& 0o100 ≠ 0 then .ok candidate
          else .error .accessDenied
  (candidates path name).foldlM step (.error .noEntry)

/-- Remembers a program by its name. -/
def keep (program : Octets × Octets) : Run Unit :=
  update fun s => { s with found := program :: s.found.filter (·.1 != program.1) }

/-- The words of a reason why a command is not run. -/
def reasonText (e : Reason) : Octets :=
  if e = .noEntry ∨ e = .notDirectory then "not found".toList else e.text

end Run

namespace Builtin

/-- Leaves the shell. -/
def exit : Builtin := fun args => do
  if let arg :: _ := args then
    let n ← Run.number arg
    Run.update ({ · with savedStatus := some n })
  throw .exit

/-- Leaves a function. -/
def return_ : Builtin := fun args => do
  match args with
  | [] =>
    Run.update ({ · with skip := .function false })
    return (← Run.state).status
  | arg :: _ =>
    let n ← Run.number arg
    Run.update ({ · with skip := .function true })
    return n

/-- Leaves loops, or goes on with the next round of one. -/
def leave (skip : Skip) : Builtin := fun args => do
  let n ← match args with
    | [] => pure 1
    | arg :: _ => do
      let n ← Run.number arg
      if n = 0 then Run.badNumber arg else pure n
  Run.update fun s =>
    if s.loops = 0 then s else { s with skip, skipCount := min n s.loops }
  return 0

/-- Whether a builtin is special. -/
def isSpecial (name : Octets) : Bool := specialBuiltins.contains (String.ofList name)

/-- Whether words behind a command that look like assignments are not split. -/
def takesAssignments (name : Octets) : Bool :=
  ["alias", "export", "local", "readonly"].contains (String.ofList name)

/-- The builtins by name. -/
def table : List (String × Internal) := [
  (".", .source), (":", .simple fun _ => return 0), ("[", .simple bracket),
  ("alias", .simple defineAliases), ("bg", .simple resume), ("break", .simple (leave .leaveLoop)),
  ("cd", .simple cd), ("chdir", .simple cd), ("command", .command),
  ("continue", .simple (leave .nextRound)), ("echo", .simple echo), ("eval", .eval),
  ("exec", .exec), ("exit", .simple exit), ("export", .simple (marking "export" true)),
  ("false", .simple fun _ => return 1), ("fg", .simple resume), ("getopts", .simple getopts),
  ("hash", .hash), ("jobs", .simple jobs), ("kill", .simple kill),
  ("local", .simple locals), ("printf", .simple printf), ("pwd", .simple pwd),
  ("read", .simple read), ("readonly", .simple (marking "readonly" false)),
  ("return", .simple return_), ("set", .simple set), ("shift", .simple shift),
  ("test", .simple test), ("times", .simple times), ("trap", .simple trap),
  ("true", .simple fun _ => return 0), ("type", .describe), ("ulimit", .simple ulimit),
  ("umask", .simple umask), ("unalias", .simple unalias), ("unset", .simple unset),
  ("wait", .simple wait)]

/-- A builtin by name. -/
def find? (name : Octets) : Option Internal := table.lookup (String.ofList name)

end Builtin

namespace Run

/-- What a name stands for as a command. Programs that were found are remembered. -/
def meaning (path : Octets) (functions : Bool) (name : Octets) : Run Meaning := do
  if '/' ∈ name then return .program
  if functions then
    if let some f := (← state).functions.find? (·.name == name) then return .function f
  match Builtin.find? name with
  | some b => return .builtin b
  | none =>
    match ← search path name with
    | .error e => return .nothing e
    | .ok full =>
      keep (name, full)
      return .program

/-- The size of the table in which programs are remembered. -/
def tableSize : Nat := 31

/-- Looks for programs and remembers them, forgets them all, or lists them. -/
def hash (args : List Octets) : Run Nat := do
  let (options, names) ← Builtin.options [('r', false)] [] args
  if options ≠ [] then
    update ({ · with found := [] })
    return 0
  if names = [] then
    let found := (← state).found.reverse.mergeSort fun a b =>
      State.bucketOf tableSize a.1 ≤ State.bucketOf tableSize b.1
    for (_, path) in found do printLine path
  let mut status := 0
  for name in names do
    update fun s => { s with found := s.found.filter (·.1 != name) }
    if let .nothing e ← meaning (← state).path true name then
      warn (name ++ ": ".toList ++ reasonText e)
      status := 1
  return status

/-- Describes a command, in words or by what could be written in its place. Programs that were found
in the usual way are remembered. -/
def describe (words : Bool) (path : Option Octets) (name : Octets) : Run Nat := do
  let say (text : String) (short : Octets) : Run Nat := do
    printLine (if words then name ++ text.toList else short)
    return 0
  let s ← state
  if Token.keywords.contains (String.ofList name) then say " is a shell keyword" name
  else
    match s.aliases.lookup name with
    | some value =>
      if words then say (" is an alias for " ++ String.ofList value) []
      else
        print "alias ".toList
        printLine (name ++ '=' :: Builtin.quote value)
        return 0
    | none =>
      match s.functions.find? (·.name == name), Builtin.find? name with
      | some _, _ => say " is a shell function" name
      | none, some _ =>
        let kind := if Builtin.isSpecial name then "special shell builtin" else "shell builtin"
        say (" is a " ++ kind) name
      | none, none =>
        let known := if path.isNone then s.found.lookup name else none
        let found ← match known with
          | some full => pure (.ok full)
          | none =>
            if '/' ∈ name then
              match ← ask (·.stat name) with
              | .ok _ => pure (.ok name)
              | .error e => pure (.error e)
            else
              let answer ← search (path.getD s.path) name
              if let .ok full := answer then
                if path.isNone then keep (name, full)
              pure answer
        match found with
        | .ok full =>
          let how := if known.isSome then " is a tracked alias for " else " is "
          say (how ++ String.ofList full) full
        | .error _ =>
          if words then printLine (name ++ ": not found".toList)
          return 127

end Run

end LineShell.Unix.Scripting
