import LineShell.Unix.Scripting.Builtins.Basic

/-! Signals by name and number, how they are sent, and what is done when they come. -/

namespace LineShell.Unix.Scripting

open Octets

namespace Signals

/-- The number of the first signal that has no name of its own. -/
def firstUnnamed : Nat := 32

/-- The number of the last signal. -/
def last : Nat := 64

/-- The names of signals without their common beginning; number 0 stands for the end. -/
def name (n : Nat) : Octets :=
  if n = 0 then "EXIT".toList
  else if n < firstUnnamed ∧ n ≠ 16 then ((signalNames.lookup n).getD []).drop 3
  else if n < 34 then Text.ofNat n
  else if n = 34 then "RTMIN".toList
  else if n = last then "RTMAX".toList
  else if n < 50 then "RTMIN+".toList ++ Text.ofNat (n - 34)
  else "RTMAX-".toList ++ Text.ofNat (last - n)

/-- The signal that a text names or numbers; names count from some number on. -/
def read? (least : Nat) (text : Octets) : Option Nat :=
  if text ≠ [] ∧ text.all isDigit then
    let n := (digits 10 0 text).1
    if n ≤ last then some n else none
  else
    (List.range (last + 1)).find? fun n =>
      least ≤ n && name n == text.map Char.toUpper

/-- What is said of a program that was ended by a signal. -/
def description (n : Nat) : Octets :=
  let named : List (Nat × String) := [
    (1, "Hangup"), (2, "Interrupt"), (3, "Quit"), (4, "Illegal instruction"),
    (5, "Trace/breakpoint trap"), (6, "Aborted"), (7, "Bus error"), (8, "Floating point exception"),
    (9, "Killed"), (10, "User defined signal 1"), (11, "Segmentation fault"),
    (12, "User defined signal 2"), (13, "Broken pipe"), (14, "Alarm clock"), (15, "Terminated"),
    (16, "Stack fault"), (17, "Child exited"), (18, "Continued"), (19, "Stopped (signal)"),
    (20, "Stopped"), (21, "Stopped (tty input)"), (22, "Stopped (tty output)"),
    (23, "Urgent I/O condition"), (24, "CPU time limit exceeded"), (25, "File size limit exceeded"),
    (26, "Virtual timer expired"), (27, "Profiling timer expired"), (28, "Window changed"),
    (29, "I/O possible"), (30, "Power failure"), (31, "Bad system call")]
  match named.lookup n with
  | some text => text.toList
  | none =>
    if n < 34 then "Unknown signal ".toList ++ Text.ofNat n
    else "Real-time signal ".toList ++ Text.ofNat (n - 34)

/-- The number that stands for the way in which a program ended. -/
def number : ExitStatus → Nat
  | .code n => n
  | .signal n _ => 128 + n

end Signals

namespace Run

/-- Says which signal ended a program, if it is not one of those that are expected to. -/
def report (status : ExitStatus) : Run Unit := do
  if let .signal n _ := status then
    if n ≠ 2 ∧ n ≠ 13 then tell (Signals.description n ++ ['\n'])

/-- Sends a signal to a process, if there is one with that number. Another process notices it before
this one goes on. -/
def send (pid signal : Nat) : Run Bool := do
  if pid = (← state).self.pid then
    if signal ≠ 0 then receive signal
    return true
  else
    let known ← ask fun _ => return (← get).knows pid
    if known && signal ≠ 0 then
      ask fun _ => Machine.send pid signal
      liftM Task.yield
    return known

end Run

namespace Builtin

/-- Says what is done when signals come and at the end. -/
def trap : Builtin := fun args => do
  let args ← operands args
  match args with
  | [] =>
    let traps := (← Run.state).traps
    for n in List.range (Signals.last + 1) do
      if let some action := traps.lookup n then
        Run.printLine ("trap -- ".toList ++ quote action ++ ' ' :: Signals.name n)
    return 0
  | first :: rest =>
    let numeric := first ≠ [] ∧ first.all isDigit ∧ (Signals.read? 0 first).isSome
    let (action, names) :=
      if rest = [] ∨ numeric then (none, args)
      else (if first = ['-'] then none else some first, rest)
    for name in names do
      match Signals.read? 0 name with
      | none =>
        Run.tell ("trap: ".toList ++ name ++ ": bad trap\n".toList)
        return 1
      | some n =>
        Run.update fun s =>
          { s with traps := (action.toList.map (n, ·)) ++ s.traps.filter (·.1 ≠ n) }
    return 0

end Builtin

end LineShell.Unix.Scripting
