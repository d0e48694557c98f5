import LineShell.Store
import LineShell.Host.Basic

/-! What can be wrong with a line. Each error is a cause; its wording stands in one place. -/

namespace LineShell

/-- The commands that the interpreter runs itself. -/
inductive Builtin
  | cd
  | pwd
  | set
  | unset
  deriving DecidableEq, Repr

namespace Builtin

def all : List Builtin := [cd, pwd, set, unset]

def name : Builtin → Text
  | cd => "cd".toList
  | pwd => "pwd".toList
  | set => "set".toList
  | unset => "unset".toList

/-- The built-in command of a name. -/
def ofName? (name : Text) : Option Builtin := all.find? (·.name == name)

end Builtin

/-- A built-in command that was given too few or too many arguments. -/
inductive Usage
  | cdMissing
  | cdTooMany
  | set
  | unset
  deriving DecidableEq, Repr

def Usage.message : Usage → Text
  | cdMissing => "cd: missing argument".toList
  | cdTooMany => "cd: too many arguments".toList
  | set => "set: usage: set VAR VALUE".toList
  | unset => "unset: usage: unset VAR".toList

/-- Why a line failed. -/
inductive LineError
  /-- The line as it was read is too long. -/
  | inputTooLong
  /-- The line is too long once it is expanded. -/
  | lineTooLong
  | tooManyWords
  | usage (usage : Usage)
  /-- The system refused to change or to name the working directory. -/
  | directory (command : Builtin) (reason : Errno)
  /-- A path with a NUL in it can be given to no system. -/
  | nulInPath (command : Builtin)
  /-- The variable was rejected. -/
  | store (reason : StoreError)
  /-- No program has this name. -/
  | notFound (program : Text)
  /-- The system refused to start a program. -/
  | spawn (program : Text) (reason : Errno)
  /-- A program was started, and the system cannot tell how it ended. -/
  | wait (program : Text) (reason : Errno)
  /-- A name or an argument with a NUL in it can be given to no program. -/
  | nulInArgument (program : Text)
  deriving DecidableEq, Repr

def LineError.message : LineError → Text
  | inputTooLong => "input line too long (max ".toList ++ Text.ofNat maxLine ++ " bytes)".toList
  | lineTooLong => "expanded line too long (max ".toList ++ Text.ofNat maxLine ++ " bytes)".toList
  | tooManyWords => "too many arguments (max ".toList ++ Text.ofNat maxWords ++ [')']
  | usage u => u.message
  | directory command reason => command.name ++ ": ".toList ++ reason.message
  | nulInPath command => command.name ++ ": file name contained an unexpected NUL byte".toList
  | store reason => "set: ".toList ++ reason.message
  | notFound program => "command not found: ".toList ++ program
  | spawn program reason => program ++ ": ".toList ++ reason.message
  | wait program reason => program ++ ": wait failed: ".toList ++ reason.message
  | nulInArgument program => program ++ ": nul byte found in provided data".toList

end LineShell
