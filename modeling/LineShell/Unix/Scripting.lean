import LineShell.Unix.Scripting.Dialogue

/-! A shell from its start: its options, where its script comes from, and the variables that it has
from the beginning. -/

namespace LineShell.Unix.Scripting

/-- The variables of a shell that are not taken from its environment. -/
def initialVariables : List Variable :=
  let known (name : String) (value : Option String) : Variable :=
    { name := name.toList, value := value.map String.toList, permanent := true }
  [known "OPTIND" (some "1"), known "PS4" (some "+ "), known "PS2" (some "> "),
    known "PS1" (some "# "),
    known "PATH" (some "/usr/local/sbin:/usr/local/bin:/usr/sbin:/usr/bin:/sbin:/bin"),
    known "MAILPATH" none, known "MAIL" none, known "IFS" (some " \t\n")]

/-- Takes over the environment. -/
def takeEnvironment : Run Unit := do
  let p := (← Run.state).self
  for (name, value) in p.environment do
    if isName name then Run.assign name (some value) true
  Run.assign "IFS".toList (some " \t\n".toList)
  Run.assign "OPTIND".toList (some ['1'])
  Run.assign "PPID".toList (some (Text.ofNat p.parent))
  let path ← Run.value? "PWD".toList
  let here ← Run.ask (·.stat ['.'])
  let same ← match path with
    | some path =>
      if path.head? = some '/' then
        match ← Run.ask (·.stat path), here with
        | .ok a, .ok b => pure (a.identity == b.identity)
        | _, _ => pure false
      else pure false
    | none => pure false
  Run.setDirectory (if same then path else none) false

/-- Runs a shell with its arguments. -/
def runArguments (ev : Evaluator) : Run Unit := do
  takeEnvironment
  let args := (← Run.state).self.args
  let (inArgument, _, args) ← Run.setOptions true (args.length + 1) false args
  if ← Run.isOn "interactive" then Run.setOption "monitor" true
  let input := args = [] ∨ (← Run.isOn "stdin")
  if args = [] ∧ inArgument then Run.fail (α := Unit) "-c requires an argument".toList
  let named (args : List Octets) : Run Unit := Run.update fun s => { s with
    name := args.headD s.name, params := args.tail }
  let fd ← if inArgument ∨ input then pure 0 else Run.openScript (args.headD [])
  if inArgument then named args.tail
  else if input then
    Run.setOption "stdin" true
    Run.setParameters args
  else named args
  Run.refuseControl
  if ← Run.isOn "interactive" then discard <| Run.attempt (Run.runProfile ev)
  let begun ← if inArgument then Run.attempt (discard <| Run.runText ev (args.headD []))
    else pure false
  if !begun || (← Run.isOn "stdin") then Run.runMain ev fd

/-- The deepest nesting of commands that are run. -/
def maxDepth : Nat := 100000

/-- Runs a shell to its end. -/
def run (start : Starter) (p : Process) : Task ExitStatus :=
  let ev : Evaluator := ⟨evaluator start maxDepth, start⟩
  (Run.conclude ev (runArguments ev)).run' {
    self := p, main := p.pid, name := p.name, vars := initialVariables }

end LineShell.Unix.Scripting
