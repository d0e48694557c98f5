import LineShell.Console
import LineShell.Flags
import LineShell.Input.Pipe
import LineShell.Loop

/-! The interpreter as a program with arguments, standard streams and an exit code. An argument that is
no text goes before everything else, then a bad argument, then the help text, then the version, and
only then is standard input read. -/

namespace LineShell

/-- What the program is started with. -/
structure Invocation (Files Dir : Type) where
  /-- The name that the program is started by. -/
  name : Bytes
  args : List Bytes
  environment : Environment
  files : Files
  dir : Dir
  stdin : Bytes
  stdout : Writer

/-- What the program leaves behind. -/
structure Exit where
  code : Nat
  stdout : Bytes
  stderr : Bytes
  /-- What the shell loop did, if it was reached. -/
  actions : List Action

namespace Invocation

variable {Files Dir : Type} (console : Console) (inv : Invocation Files Dir)

/-- Prints a text and exits. The program is given up if the text cannot be printed. -/
def printAndExit (text : Text) (code : Nat) (stderr : Bytes) : Exit :=
  match inv.stdout.write text.encode with
  | (written, _, .ok ()) => ⟨code, written, stderr, []⟩
  | (written, _, .error e) => ⟨101, written, stderr ++ console.panicked (.printing e), []⟩

/-- The log, with the filter that goes with the flags unless the environment has one. -/
def logger (flags : Flags) : Logger :=
  console.logger inv.environment (if flags.isSet .debug then "debug".toList else "warn".toList)

variable [Host Files Dir]

/-- Runs the shell loop over standard input. -/
def loop (flags : Flags) : Run Files Dir Pipe :=
  (Shell.start inv.files inv.dir inv.environment).run
    ⟨flags.isSet .quiet, ⟨console.coloured inv.environment⟩⟩ (Pipe.mk inv.stdin inv.stdout)

/-- Runs the program with arguments that are texts. -/
def exitWith (args : List Text) : Exit :=
  match Flags.none.parse args with
  | (_, .error e) =>
    inv.printAndExit console Flags.help 2 (Text.encode ("xsh: ".toList ++ e.message ++ ['\n']))
  | (flags, .ok ()) =>
    if flags.isSet .help then inv.printAndExit console Flags.help 0 []
    else if flags.isSet .version then inv.printAndExit console Flags.version 0 []
    else
      let run := inv.loop console flags
      let stdout := run.actions.flatMap fun a => a.prompted ++ a.stdout
      let stderr := (inv.logger console flags).stderr run.actions
      match run.result with
      | .ok () => ⟨0, stdout, stderr, run.actions⟩
      | .error e =>
        ⟨1, stdout, stderr ++ Text.encode ("xsh: ".toList ++ e.message ++ ['\n']), run.actions⟩

/-- Runs the program. It is given up at the first argument that is no text; the name counts too. -/
def exit : Exit :=
  match (inv.name :: inv.args).find? (!Text.isUtf8 ·) with
  | some arg => ⟨101, [], console.panicked (.argument arg), []⟩
  | none => inv.exitWith console (inv.args.map Text.decode)

end Invocation

end LineShell
