import LineShell.Host.Basic
import LineShell.Log

/-! What the interpreter does, as a list of actions in order. Each output stream, the prompts and
the log are parts of that list. -/

namespace LineShell

/-- What the interpreter does that can be seen from outside. -/
inductive Action
  | log (event : Event)
  /-- Writes to standard output. -/
  | print (text : Text)
  /-- Runs a program, which writes on its own. -/
  | ran (program : Text) (args : List Text) (writes : List Write)
  /-- Reports an error on the error stream. -/
  | report (text : Text)
  /-- Asks for a line; the bytes are those of the prompt that were written. -/
  | ask (prompt : Text) (written : Bytes)
  deriving DecidableEq, Repr

namespace Action

/-- What commands write to standard output, prompts aside. -/
def stdout : Action → Bytes
  | print text => text.encode
  | ran _ _ writes => Stream.stdout.bytes writes
  | log _ | report _ | ask _ _ => []

/-- What commands and reports write to the error stream, the log aside. -/
def stderr : Action → Bytes
  | report text => Text.encode (text ++ ['\n'])
  | ran _ _ writes => Stream.stderr.bytes writes
  | log _ | print _ | ask _ _ => []

/-- What was written of a prompt. -/
def prompted : Action → Bytes
  | ask _ written => written
  | log _ | print _ | ran _ _ _ | report _ => []

/-- The text of a prompt. -/
def prompt? : Action → Option Text
  | ask prompt _ => some prompt
  | log _ | print _ | ran _ _ _ | report _ => none

/-- The event that a record is made of. -/
def event? : Action → Option Event
  | log event => some event
  | print _ | ran _ _ _ | report _ | ask _ _ => none

end Action

end LineShell
