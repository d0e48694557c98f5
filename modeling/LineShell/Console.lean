import LineShell.Action
import LineShell.Input.Basic

/-! What the program leaves to libraries: whether the terminal shows colours, how a log is written, and
what is said when the program is given up. -/

namespace LineShell

/-- Why the program is given up on the spot. -/
inductive Panic
  /-- An argument is no text. -/
  | argument (bytes : Bytes)
  /-- The text that was asked for cannot be printed. -/
  | printing (reason : InputError)
  deriving DecidableEq, Repr

/-- A log that is set up. Records are written each at a time of its own, which is given here by the
number of actions before it. -/
structure Logger where
  /-- What is written while the log is set up. -/
  opening : Bytes
  write : Nat → Record → Bytes

namespace Logger

/-- What an action shows on the error stream together with the log. -/
def stderrOf (logger : Logger) (time : Nat) : Action → Bytes
  | .log e => logger.write time e.record
  | a => a.stderr

/-- What the error stream shows from the time when the log is set up. -/
def stderr (logger : Logger) (actions : List Action) : Bytes :=
  logger.opening ++ actions.zipIdx.flatMap fun (a, time) => logger.stderrOf time a

end Logger

/-- The libraries behind standard output and the error stream. -/
structure Console where
  /-- Whether error reports are coloured. -/
  coloured : Environment → Bool
  /-- Sets up the log, with a filter for the case that the environment has none. -/
  logger : Environment → Text → Logger
  panicked : Panic → Bytes

end LineShell
