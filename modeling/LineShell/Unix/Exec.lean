import LineShell.Unix.Tools

/-! Starting programs. A script names its interpreter in its first line, of which only the beginning
is looked at. A name with a slash in it is a path; any other is searched for in the directories of
`PATH`. -/

namespace LineShell.Unix

/-- The longest argument. -/
def maxArgument : Nat := 131071

/-- The room for arguments and environment, which is a part of the stack. -/
def argumentRoom (p : Process) : Nat :=
  max 0x20000 (((p.limit .stack).soft.map (· / 4)).elim 0x600000 (min 0x600000))

/-- Whether arguments and environment are too large for a program. Every text ends with a byte and
is pointed to. -/
def isOverfull (p : Process) (path : Octets) : Bool :=
  let size (texts : List Octets) : Nat := texts.foldl (fun n text => n + text.length + 9) 0
  let settings := p.environment.map fun (name, value) => name ++ '=' :: value
  p.args.any (·.length > maxArgument) || settings.any (·.length > maxArgument) ||
    path.length + 1 + size (p.name :: p.args) + size settings > argumentRoom p

/-- The most interpreters that one program leads through. -/
def maxInterpreters : Nat := 5

/-- The part of a script that is looked at for its interpreter. -/
def scriptHead : Nat := 256

/-- The interpreter that a script names, with the one argument that it may give to it. -/
structure Interpreter where
  path : Octets
  argument : Option Octets
  deriving DecidableEq, Repr

namespace Interpreter

def isBlank (c : Char) : Bool := c == ' ' || c == '\t'

/-- Reads the first line of a script. It is cut off where the part looked at ends, unless that may
have cut the path of the interpreter. -/
def ofScript? (contents : Octets) : Option Interpreter := do
  let rest ← Octets.after? ['#', '!'] ((contents.take scriptHead).rightpad scriptHead '\x00')
  let ends (c : Char) : Bool := isBlank c || c == '\x00'
  let line ←
    if '\n' ∈ rest then some (rest.takeWhile (· ≠ '\n'))
    else if (rest.dropWhile isBlank).any ends then some rest.dropLast
    else none
  let line := (line.reverse.dropWhile isBlank).reverse.dropWhile isBlank
  guard (line ≠ [])
  let path := line.takeWhile (!ends ·)
  match line.drop path.length with
  | c :: behind =>
    if isBlank c then
      return ⟨path, some ((behind.dropWhile isBlank).takeWhile (· ≠ '\x00'))⟩
    else return ⟨path, none⟩
  | [] => return ⟨path, none⟩

end Interpreter

/-- What to run: a program, the name it is started by, and the arguments in front of those given. -/
structure Image where
  program : Program
  /-- The path of the interpreter, if the program is one. -/
  name : Option Octets
  args : List Octets
  deriving DecidableEq, Repr

/-- Finds what to run for a path. A script whose interpreter has an empty name would be run by the
working directory. -/
def load (files : FileSystem) (dir : Inode) : Nat → Octets → Except Reason Image
  | fuel, path => do
    let i ← files.resolve dir path
    match files.node? i with
    | some (.program program) =>
      if fuel = 0 then .error .tooManyLinks else .ok ⟨program, none, []⟩
    | some (.regular contents) =>
      if !files.allows i .execute then .error .accessDenied
      else
        match fuel with
        | 0 => .error .tooManyLinks
        | fuel + 1 =>
          match Interpreter.ofScript? contents with
          | none => .error .execFormat
          | some interpreter =>
            if interpreter.path = [] then .error .accessDenied
            let image ← load files dir fuel interpreter.path
            .ok ⟨image.program, some (image.name.getD interpreter.path),
              image.args ++ interpreter.argument.toList ++ [path]⟩
    | _ => .error .accessDenied

/-- Finds what to run for a path, and checks the arguments. -/
def prepare (files : FileSystem) (p : Process) (path : Octets) : Except Reason Image :=
  if isOverfull p path then .error .tooLong
  else load files p.dir (maxInterpreters + 1) path

/-- Runs the program at a path as a process. -/
abbrev Starter := Process → Octets → Task (Except Reason ExitStatus)

/-- The paths that a name may stand for. -/
def candidates (path name : Octets) : List Octets :=
  (Text.cut ':' path).map fun directory =>
    if directory = [] then name else directory ++ '/' :: name

/-- Tries paths in turn. A path that leads nowhere is passed over; one that may not be executed is
remembered as the reason to give if no other can be. -/
def firstLoadable (files : FileSystem) (dir : Inode) (reason : Reason) :
    List Octets → Except Reason Octets
  | [] => .error reason
  | path :: rest =>
    match load files dir (maxInterpreters + 1) path with
    | .ok _ => .ok path
    | .error .accessDenied => firstLoadable files dir .accessDenied rest
    | .error .noEntry | .error .notDirectory => firstLoadable files dir reason rest
    | .error e => .error e

/-- The path of the program that a name stands for. -/
def find (files : FileSystem) (p : Process) (name : Octets) : Except Reason Octets :=
  if '/' ∈ name then (load files p.dir (maxInterpreters + 1) name).map fun _ => name
  else if name = [] then .error .noEntry
  else if name.length > FileSystem.maxFileName then .error .nameTooLong
  else
    firstLoadable files p.dir .noEntry
      (candidates ((p.getenv? "PATH").getD "/bin:/usr/bin".toList) name)

end LineShell.Unix
