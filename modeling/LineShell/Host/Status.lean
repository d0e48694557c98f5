import LineShell.Text.Basic

/-! How a program ended: with an exit code, or by a signal. -/

namespace LineShell

/-- The status that a program leaves to the one that started it. -/
inductive ExitStatus
  | code (n : Nat)
  /-- A signal ended the program, and may have left an image of it behind. -/
  | signal (n : Nat) (dumped : Bool)
  deriving DecidableEq, Repr

/-- The signals by number. -/
def signalNames : List (Nat × Text) := [
  (1, "SIGHUP".toList), (2, "SIGINT".toList), (3, "SIGQUIT".toList), (4, "SIGILL".toList),
  (5, "SIGTRAP".toList), (6, "SIGABRT".toList), (7, "SIGBUS".toList), (8, "SIGFPE".toList),
  (9, "SIGKILL".toList), (10, "SIGUSR1".toList), (11, "SIGSEGV".toList), (12, "SIGUSR2".toList),
  (13, "SIGPIPE".toList), (14, "SIGALRM".toList), (15, "SIGTERM".toList),
  (16, "SIGSTKFLT".toList), (17, "SIGCHLD".toList), (18, "SIGCONT".toList),
  (19, "SIGSTOP".toList), (20, "SIGTSTP".toList), (21, "SIGTTIN".toList),
  (22, "SIGTTOU".toList), (23, "SIGURG".toList), (24, "SIGXCPU".toList), (25, "SIGXFSZ".toList),
  (26, "SIGVTALRM".toList), (27, "SIGPROF".toList), (28, "SIGWINCH".toList),
  (29, "SIGIO".toList), (30, "SIGPWR".toList), (31, "SIGSYS".toList)]

namespace ExitStatus

/-- A program succeeded if it exited with zero. -/
def success : ExitStatus → Bool
  | code n => n == 0
  | signal _ _ => false

/-- A status in words. -/
def message : ExitStatus → Text
  | code n => "exit status: ".toList ++ Text.ofNat n
  | signal n dumped =>
    "signal: ".toList ++ Text.ofNat n ++
      (match signalNames.lookup n with
        | some name => " (".toList ++ name ++ [')']
        | none => []) ++
      if dumped then " (core dumped)".toList else []

end ExitStatus

end LineShell
