import LineShell.Host.Status
import LineShell.Text.Quoted

/-! Log records. Each event of the interpreter has a level, a target that says which part of it
speaks, and a message. -/

namespace LineShell

/-- The severity of a log record. -/
inductive Level
  | error
  | warn
  | info
  | debug
  | trace
  deriving DecidableEq, Repr

namespace Level

/-- Higher ranks are less severe. -/
def rank : Level → Nat
  | error => 1
  | warn => 2
  | info => 3
  | debug => 4
  | trace => 5

def name : Level → Text
  | error => "ERROR".toList
  | warn => "WARN".toList
  | info => "INFO".toList
  | debug => "DEBUG".toList
  | trace => "TRACE".toList

end Level

/-- What the interpreter does that a log can show. -/
inductive Event
  /-- A reference met an unbound name. -/
  | unsetReference (name : Text)
  /-- A line with references was expanded. -/
  | expanded (line result : Text)
  /-- A line was split into words. -/
  | tokens (words : List Text)
  /-- A built-in command is about to run. -/
  | builtin (name : Text) (args : List Text)
  /-- A program is about to be started. -/
  | external (name : Text) (args : List Text)
  /-- A variable lost its old value to a new one. -/
  | replaced (name old : Text)
  /-- A variable to be removed was not there. -/
  | notBound (name : Text)
  /-- A program was started. -/
  | spawned (program : Text) (pid : Nat)
  /-- A program ended without success. -/
  | exited (program : Text) (status : ExitStatus)
  /-- An error report was held back. -/
  | suppressed (message : Text)
  /-- The shell loop ended. -/
  | leaving
  deriving DecidableEq, Repr

namespace Event

def level : Event → Level
  | unsetReference _ | tokens _ | replaced _ _ | notBound _ => .trace
  | expanded _ _ | builtin _ _ | external _ _ | spawned _ _ | exited _ _ | suppressed _ | leaving =>
    .debug

def target : Event → Text
  | unsetReference _ | expanded _ _ => "xsh::core::expand".toList
  | replaced _ _ | notBound _ => "xsh::core::env::vars".toList
  | builtin _ _ | external _ _ => "xsh::core::commands".toList
  | spawned _ _ | exited _ _ => "xsh::process::executor".toList
  | tokens _ | suppressed _ | leaving => "xsh::shell".toList

/-- The message of a record. -/
def message : Event → Text
  | unsetReference name => "expand: $".toList ++ name ++ " is unset".toList
  | expanded line result =>
    "expanded ".toList ++ Text.quoted line ++ " -> ".toList ++ Text.quoted result
  | tokens words => "tokens: ".toList ++ Text.quotedList words
  | builtin name args => "builtin ".toList ++ name ++ ' ' :: Text.quotedList args
  | external name args => "external ".toList ++ name ++ ' ' :: Text.quotedList args
  | replaced name old => "set ".toList ++ name ++ ": replaced ".toList ++ Text.quoted old
  | notBound name => "unset ".toList ++ name ++ ": not bound".toList
  | spawned program pid =>
    "spawned ".toList ++ program ++ " (pid ".toList ++ Text.ofNat pid ++ [')']
  | exited program status => program ++ " exited with ".toList ++ status.message
  | suppressed message => "suppressed: ".toList ++ message
  | leaving => "leaving shell loop".toList

end Event

/-- What a log is given of an event. -/
structure Record where
  level : Level
  target : Text
  message : Text
  deriving DecidableEq, Repr

/-- The record of an event. -/
def Event.record (e : Event) : Record := ⟨e.level, e.target, e.message⟩

end LineShell
