import LineShell.Host.Errno
import LineShell.Host.Status
import LineShell.Text.Utf8

/-! The operating system as the interpreter sees it. A request that fails answers with a reason and
no new state, so it changes nothing. To run a program takes two requests, one that starts it and one
that waits for it. What the program does while it is waited for is done whether or not the system can
tell how it ended. It can change files, but neither the working directory nor the environment of the
one that started it. -/

namespace LineShell

/-- The variables that a program inherits from the one that starts it. -/
abbrev Environment := List (Text × Text)

namespace Environment

/-- The value of an environment variable. -/
def get? (env : Environment) (name : Text) : Option Text := env.lookup name

/-- Binds a variable, in place of any earlier binding. -/
def insert (env : Environment) (name value : Text) : Environment :=
  env.filter (·.1 ≠ name) ++ [(name, value)]

end Environment

/-- The two streams that a program writes to. -/
inductive Stream
  | stdout
  | stderr
  deriving DecidableEq, Repr

/-- Bytes written to a stream. -/
structure Write where
  stream : Stream
  bytes : Bytes
  deriving DecidableEq, Repr

/-- The bytes of writes that went to a stream. -/
def Stream.bytes (s : Stream) (writes : List Write) : Bytes :=
  writes.flatMap fun w => if w.stream = s then w.bytes else []

/-- What waiting for a program gives: how it ended, if the system can tell, and what it did. -/
structure Completion (Files : Type) where
  status : Except Errno ExitStatus
  files : Files
  writes : List Write

/-- An operating system with files in a state of type `Files` and working directories of type
`Dir`. -/
class Host (Files Dir : Type) where
  /-- The directory that a path names, seen from a working directory. -/
  changeDir : Files → Dir → Text → Except Errno Dir
  /-- The absolute path of a working directory. -/
  pathOf : Files → Dir → Except Errno Text
  /-- Programs that were started and not yet waited for. -/
  Child : Type
  /-- The number by which the system calls such a program. -/
  pid : Child → Nat
  /-- Starts a program by name with arguments. -/
  start : Files → Dir → Environment → Text → List Text → Except Errno (Files × Child)
  /-- Waits for a program until it has ended. -/
  wait : Files → Child → Completion Files

end LineShell
