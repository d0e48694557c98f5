import LineShell.Unix.Scripting.Builtins.Signals

/-! Commands in the background, and waiting. A shell notices that its children have ended when it
waits for something or is asked about them. -/

namespace LineShell.Unix.Scripting

open Octets

namespace Run

/-- A number for a job: the first one that is free or whose job was waited for. -/
def newJob : Run Nat := do
  let jobs := (← state).jobs
  let isFree (n : Nat) : Bool := (jobs.find? (·.number == n)).all (·.waited)
  let n := ((List.range (jobs.length + 1)).map (· + 1)).find? isFree |>.getD 0
  update fun s => { s with jobs := s.jobs.filter (·.number != n) }
  return n

/-- Changes a job. -/
def updateJob (number : Nat) (f : Job → Job) : Run Unit :=
  update fun s => { s with
    jobs := s.jobs.map fun job => if job.number = number then f job else job }

/-- Takes note of the children that have ended. -/
def reap : Run (List Ended) := do
  let ended ← ask fun p => Machine.takeEnded p.pid
  let note (process : Nat × Option ExitStatus) : Nat × Option ExitStatus :=
    (process.1, process.2.or ((ended.find? (·.pid == process.1)).map (·.status)))
  update fun s => { s with
    jobs := s.jobs.map fun job => { job with processes := job.processes.map note } }
  return ended

/-- Waits until a child has ended or a signal has come. -/
def sleep : Run Unit := do
  let pid := (← state).self.pid
  liftM (Task.await fun m => m.isBereaved pid || m.isSignalled pid)

/-- Waits for processes to end, and answers with the status of the last of them. Those that signals
ended are reported. -/
def waitFor (pids : List Nat) : Run Nat :=
  iterate (throw (.killed 24)) (fun (found : List Ended) => do
    let ended := (← reap).filter (pids.contains ·.pid)
    ended.forM fun e => report e.status
    let found := found ++ ended
    if found.length < pids.length then
      sleep
      receiveAll
      return .inl found
    let last := found.find? fun e => some e.pid == pids.getLast?
    return .inr (last.elim 0 (Signals.number ·.status))) maxSteps []

/-- Waits until no job runs that fulfils a condition. Those of their processes are reported that
signals end, if that is asked for. A signal that is caught ends the waiting and is the answer. -/
def awaitJobs (reported : Bool) (test : Job → Bool) : Run (Option Nat) :=
  iterate (throw (.killed 24)) (fun () => do
    let running := (← state).jobs.filter fun job => test job && job.status?.isNone
    let ended ← reap
    if reported then
      for e in ended do
        if running.any (·.processes.any (·.1 == e.pid)) then report e.status
    if (← state).jobs.all fun job => !test job || job.status?.isSome then return .inr none
    receiveAll
    match (← state).pending with
    | some signal => return .inr (some signal)
    | none =>
      sleep
      return .inl ()) maxSteps ()

end Run

namespace Builtin

/-- The job that a text names; without a text, the current one. -/
def findJob (text : Option Octets) (controlled : Bool := false) : Run Job := do
  let jobs := (← Run.state).jobs
  let missing {α : Type} : Run α := Run.fail ("No such job: ".toList ++ text.getD [])
  let here (what : String) (job : Option Job) : Run Job := do
    match job with
    | some job => return job
    | none => Run.fail ("No ".toList ++ what.toList ++ " job".toList)
  let job ← match text with
    | none | some ['%'] | some ['%', '+'] | some ['%', '%'] => here "current" jobs.head?
    | some ['%', '-'] => here "previous" jobs[1]?
    | some ('%' :: name) =>
      match if name.all isDigit then jobs.find? (·.number == (digits 10 0 name).1) else none with
      | some job => pure job
      | none =>
        if name ≠ ['?'] then missing
        else
          match jobs with
          | [] => missing
          | [job] => pure job
          | _ => Run.fail (text.getD [] ++ ": ambiguous".toList)
    | some _ => missing
  if controlled then
    Run.fail (α := Unit)
      ("job ".toList ++ text.getD "(null)".toList ++ " not created under job control".toList)
  return job

/-- How a job is, in words. -/
def condition : Option ExitStatus → Octets
  | none => "Running".toList
  | some (.code 0) => "Done".toList
  | some (.code n) => "Done(".toList ++ Text.ofNat n ++ [')']
  | some (.signal n _) => Signals.description n

/-- The column in which the text of a command would stand. -/
def commandColumn : Nat := 33

/-- Lists a job, which is forgotten then if it has ended. -/
def listJob (pids detailed : Bool) (job : Job) : Run Unit := do
  let jobs := (← Run.state).jobs
  let all := job.processes.map (·.1)
  if pids then Run.printLine (Text.ofNat (all.headD 0))
  else
    let mark :=
      if (jobs.head?.map (·.number)) = some job.number then '+'
      else if (jobs[1]?.map (·.number)) = some job.number then '-'
      else ' '
    let front := '[' :: Text.ofNat job.number ++ "] ".toList ++ [mark, ' ']
    let pid (n : Nat) : Octets := if detailed then Text.ofNat n ++ [' '] else []
    let first := front ++ pid (all.headD 0) ++ condition job.status?
    let others := all.tail.flatMap fun n =>
      if detailed then
        let line := List.replicate front.length ' ' ++ pid n
        " |\n".toList ++ line ++ List.replicate (commandColumn - line.length) ' '
      else " | ".toList
    Run.printLine (first.rightpad commandColumn ' ' ++ others)
    if job.status?.isSome then
      Run.update fun s => { s with jobs := s.jobs.filter (·.number != job.number) }

/-- Lists jobs. -/
def jobs : Builtin := fun args => do
  let (options, names) ← options [('l', false), ('p', false)] [] args
  let isLast (c : Char) : Bool := (options.getLast?.map (·.1)) == some c
  let list := listJob (isLast 'p') (isLast 'l')
  discard Run.reap
  if names = [] then (← Run.state).jobs.forM list
  else names.forM fun name => do list (← findJob (some name))
  return 0

/-- Continues a job; there is none that could be. -/
def resume : Builtin := fun args => do
  let names ← operands args
  discard <| findJob names.head? true
  return 0

/-- Waits for jobs. -/
def wait : Builtin := fun args => do
  let names ← operands args
  let one (_ : Nat) (name : Octets) : ExceptT Nat Run Nat := do
    let job ← if name.head? = some '%' then some <$> findJob (some name) else do
      let pid ← Run.number name
      pure ((← Run.state).jobs.find? fun job => job.processes.getLast?.any (·.1 == pid))
    match job with
    | none => return 127
    | some job =>
      if let some signal ← Run.awaitJobs true (·.number == job.number) then throw (128 + signal)
      Run.updateJob job.number ({ · with waited := true })
      let now := (← Run.state).jobs.find? (·.number == job.number)
      return (now.bind (·.status?)).elim 0 Signals.number
  if names = [] then
    if let some signal ← Run.awaitJobs false fun _ => true then return 128 + signal
    Run.update fun s => { s with jobs := s.jobs.map ({ · with waited := true }) }
    return 0
  else
    match ← (names.foldlM one 127).run with
    | .ok status | .error status => return status

/-- Says how `kill` is used. -/
def killUsage {α : Type} : Run α :=
  Run.fail ("Usage: kill [-s sigspec | -signum | -sigspec] [pid | job]... or\n".toList ++
    "kill -l [exitstatus]".toList)

/-- Lists the names of signals, or names one that ended a program. -/
def listSignals (args : List Octets) : Run Nat := do
  match args with
  | [] =>
    Run.printLine ['0']
    (List.range Signals.last).forM fun n => Run.printLine (Signals.name (n + 1))
  | arg :: _ =>
    let n ← Run.number arg
    let n := if n > 128 then n - 128 else n
    if n = 0 ∨ n > Signals.last then
      Run.fail (α := Unit) ("invalid signal number or exit status: ".toList ++ arg)
    Run.printLine (Signals.name n)
  return 0

/-- Sends signals to processes. -/
def kill : Builtin := fun args => do
  let (signal, list, targets) ← match args with
    | [] => killUsage
    | first :: rest =>
      if first.head? ≠ some '-' then pure (none, false, args)
      else
        match Signals.read? 1 first.tail with
        | some n => pure (some n, false, rest)
        | none =>
          let (options, rest) ← options [('l', false), ('s', true)] [] args
          let mut signal := none
          for (c, text) in options do
            if c = 's' then
              match Signals.read? 1 text with
              | some n => signal := some n
              | none => Run.fail (α := Unit) ("invalid signal number or name: ".toList ++ text)
          pure (signal, options.any (·.1 == 'l'), rest)
  let signal := if list then signal else some (signal.getD 15)
  if list = (signal.isSome ∧ targets ≠ []) then killUsage
  if list then listSignals targets
  else
    let mut status := 0
    for target in targets do
      let reached ← match target with
        | '%' :: _ => do
          discard <| findJob (some target)
          pure false
        | '-' :: group => do
          discard <| Run.number group
          pure false
        | _ => Run.send (← Run.number target) (signal.getD 15)
      if !reached then
        Run.warn (Reason.noProcess.text ++ ['\n'])
        status := 1
    return status

end Builtin

end LineShell.Unix.Scripting
