import LineShell.Action
import LineShell.Prepare

/-! The state of the interpreter and what it does with a list of words. A built-in command is run
here; anything else names a program, which the system is asked to start and then waited for. A command
that fails leaves the state as it is, unless it fails while it waits: then the program has run. -/

namespace LineShell

/-- The interpreter between two commands. -/
structure Shell (Files Dir : Type) where
  store : Store
  /-- The status that a program left last. -/
  lastStatus : Option ExitStatus
  files : Files
  dir : Dir
  environment : Environment

/-- What a command did: its result, the state it leaves and its actions in order. -/
structure Outcome (Files Dir α : Type) where
  result : Except LineError α
  shell : Shell Files Dir
  actions : List Action

/-- Puts actions in front of those of an outcome. -/
def Outcome.after {Files Dir α : Type} (o : Outcome Files Dir α) (actions : List Action) :
    Outcome Files Dir α :=
  { o with actions := actions ++ o.actions }

namespace Shell

variable {Files Dir : Type}

/-- The interpreter before the first command. -/
def start (files : Files) (dir : Dir) (environment : Environment) : Shell Files Dir where
  store := .empty
  lastStatus := none
  files
  dir
  environment

/-- A command that fails leaves the state as it is. -/
def fail {α : Type} (sh : Shell Files Dir) (e : LineError) : Outcome Files Dir α :=
  ⟨.error e, sh, []⟩

/-- Binds a variable to words joined by blanks. -/
def setVariable (sh : Shell Files Dir) : List Text → Outcome Files Dir Unit
  | name :: word :: words =>
    match sh.store.set name (Text.unwords (word :: words)) with
    | .error e => sh.fail (.store e)
    | .ok store => ⟨.ok (), { sh with store }, (sh.store.setEvents name).map .log⟩
  | _ => sh.fail (.usage .set)

/-- Removes a variable. -/
def unsetVariable (sh : Shell Files Dir) : List Text → Outcome Files Dir Unit
  | [name] =>
    ⟨.ok (), { sh with store := sh.store.erase name }, (sh.store.unsetEvents name).map .log⟩
  | _ => sh.fail (.usage .unset)

variable [Host Files Dir]

/-- Makes another directory the working directory. -/
def changeDir (sh : Shell Files Dir) : List Text → Outcome Files Dir Unit
  | [] => sh.fail (.usage .cdMissing)
  | [path] =>
    if '\x00' ∈ path then sh.fail (.nulInPath .cd)
    else
      match Host.changeDir sh.files sh.dir path with
      | .error reason => sh.fail (.directory .cd reason)
      | .ok dir => ⟨.ok (), { sh with dir }, []⟩
  | _ => sh.fail (.usage .cdTooMany)

/-- Prints the path of the working directory, whatever the arguments are. -/
def printDir (sh : Shell Files Dir) : Outcome Files Dir Unit :=
  match Host.pathOf sh.files sh.dir with
  | .error reason => sh.fail (.directory .pwd reason)
  | .ok path => ⟨.ok (), sh, [.print (path ++ ['\n'])]⟩

/-- Runs a built-in command. -/
def runBuiltin (sh : Shell Files Dir) (b : Builtin) (args : List Text) : Outcome Files Dir Unit :=
  match b with
  | .cd => sh.changeDir args
  | .pwd => sh.printDir
  | .set => sh.setVariable args
  | .unset => sh.unsetVariable args

/-- Waits for a program that was started. Its status is remembered, whatever that is; if the system
cannot tell it, the last one is kept. -/
def await (sh : Shell Files Dir) (program : Text) (args : List Text) (child : Host.Child Files Dir) :
    Outcome Files Dir Unit :=
  let done := Host.wait sh.files child
  match done.status with
  | .error reason =>
    ⟨.error (.wait program reason), { sh with files := done.files },
      [.ran program args done.writes]⟩
  | .ok status =>
    ⟨.ok (), { sh with files := done.files, lastStatus := some status },
      .ran program args done.writes ::
        if status.success then [] else [.log (.exited program status)]⟩

/-- Starts a program and waits for it. -/
def runProgram (sh : Shell Files Dir) (program : Text) (args : List Text) :
    Outcome Files Dir Unit :=
  if '\x00' ∈ program ∨ ∃ arg ∈ args, '\x00' ∈ arg then sh.fail (.nulInArgument program)
  else
    match Host.start sh.files sh.dir sh.environment program args with
    | .error reason =>
      sh.fail (if reason.isNoEntry then .notFound program else .spawn program reason)
    | .ok (files, child) =>
      ({ sh with files }.await program args child).after
        [.log (.spawned program (Host.pid child))]

/-- Runs the command of a name. -/
def execute (sh : Shell Files Dir) (name : Text) (args : List Text) : Outcome Files Dir Unit :=
  match Builtin.ofName? name with
  | some b => (sh.runBuiltin b args).after [.log (.builtin name args)]
  | none => (sh.runProgram name args).after [.log (.external name args)]

/-- Runs the command that the first word names; without words there is nothing to do. -/
def dispatch (sh : Shell Files Dir) : List Text → Outcome Files Dir Unit
  | [] => ⟨.ok (), sh, []⟩
  | name :: args => sh.execute name args

end Shell

end LineShell
