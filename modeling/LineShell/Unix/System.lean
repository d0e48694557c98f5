import LineShell.Unix.Layout
import LineShell.Unix.Scripting

/-! The system as a host of the interpreter, with the files that it has from the beginning. -/

namespace LineShell.Unix

/-- The most programs that can be started from one another. -/
def maxDepth : Nat := 1000

/-- Runs what was found for a process, which can start other programs in some way. -/
def perform (start : Starter) (p : Process) (image : Image) : Task ExitStatus := do
  Task.ask (Machine.dropHidden p.pid)
  let p := { p with name := image.name.getD p.name, args := image.args ++ p.args }
  match image.program.run? p with
  | some work => work
  | none => Scripting.run start p

/-- Runs the program at a path; those that it starts in turn have a smaller depth left. -/
def exec : Nat → Starter
  | 0, _, _ => return .error .tryAgain
  | depth + 1, p, path => do
    match prepare (← Task.ask get).files p path with
    | .error e => return .error e
    | .ok image => return .ok (← perform (exec depth) p image)

/-- The number of commands that may be run before the program that was started first has ended. -/
def maxCommands : Nat := 1000000

/-- The number of commands that may be run behind its end. -/
def maxRemnants : Nat := 10000

/-- The most turns that are given to processes. -/
def maxTurns : Nat := 100000000

/-- The number of the program that is started first. -/
def first : Nat := 999

/-- The number of the process that starts it. -/
def outside : Nat := 998

/-- A program that was started: its number, the machine it runs on and its work. -/
structure Child where
  pid : Nat
  machine : Machine
  work : Task Unit

/-- Starts a program that reads nothing from standard input. -/
def start (files : FileSystem) (dir : Inode) (environment : Environment) (name : Text)
    (args : List Text) : Except Reason (FileSystem × Child) := do
  let files := { files with now := files.now + 4000000 }
  let null := (files.resolve FileSystem.root "/dev/null".toList).toOption.getD FileSystem.root
  let machine : Machine := {
    files
    descriptions := #[⟨.file null, { reads := true }, 0⟩, ⟨.stream .stdout, { writes := true }, 0⟩,
      ⟨.stream .stderr, { writes := true }, 0⟩]
    living := [⟨first, outside, [(0, 0), (1, 1), (2, 2)]⟩, ⟨outside, outside, []⟩]
    budget := maxCommands }
  let p : Process := {
    pid := first
    parent := outside
    name := .ofText name
    args := args.map .ofText
    environment := environment.map fun (n, v) => (.ofText n, .ofText v)
    dir }
  let image ← prepare files p (← find files p p.name)
  let work : Task Unit := do
    let status ← perform (exec maxDepth) p image
    Task.ask do
      Machine.finish first status
      modify fun m => { m with budget := min m.budget maxRemnants }
  return (files, ⟨first, machine, work⟩)

/-- Lets a program work to its end. Its status is always known. -/
def wait (files : FileSystem) (child : Child) : Completion FileSystem :=
  let machine := { child.machine with files }.schedule maxTurns
    [⟨fun _ => true, fun m => (child.work m).course⟩]
  let status := (machine.ended.find? (·.pid == child.pid)).elim (.signal 9 false) (·.status)
  ⟨.ok status, machine.files, machine.writes.reverse⟩

instance : Host FileSystem Inode where
  changeDir files dir path := (files.workplace dir (.ofText path)).mapError Reason.errno
  pathOf files dir := ((files.pathOf dir).map Octets.toText).mapError Reason.errno
  Child := Child
  pid := Child.pid
  start files dir environment name args :=
    (start files dir environment name args).mapError Reason.errno
  wait := wait

/-- The programs with their names. -/
def installed : List (String × Program) := [
  ("[", .bracket), ("cat", .cat), ("echo", .echo), ("false", .false), ("ls", .ls),
  ("mkdir", .mkdir), ("printenv", .printenv), ("printf", .printf), ("rm", .rm),
  ("rmdir", .rmdir), ("sh", .sh), ("test", .test), ("touch", .touch),
  ("tr", .tr), ("true", .true)]

/-- The directories of a fresh system. -/
def directories : List String := [
  "boot", "dev/fd", "dev/pts", "dev/shm", "etc", "home", "media", "mnt", "opt", "proc/self/fd",
  "root", "run", "srv", "sys", "tmp", "usr/bin", "usr/games", "usr/include", "usr/lib",
  "usr/lib64", "usr/local/bin", "usr/local/lib", "usr/local/sbin", "usr/local/share", "usr/sbin",
  "usr/share", "usr/src", "var/cache", "var/lib", "var/log", "var/tmp"]

/-- The symbolic links of a fresh system, with their targets. -/
def links : List (String × String) := [
  ("bin", "usr/bin"), ("lib", "usr/lib"), ("lib64", "usr/lib64"), ("sbin", "usr/sbin"),
  ("var/run", "/run"), ("var/lock", "/run/lock")]

/-- The devices of a fresh system. -/
def devices : List (String × Device) :=
  [("dev/null", .null), ("dev/full", .full), ("dev/tty", .terminal),
    ("dev/stdin", .descriptor 0), ("dev/stdout", .descriptor 1), ("dev/stderr", .descriptor 2)] ++
    (List.range 10).flatMap fun n =>
      [("dev/fd/" ++ toString n, .descriptor n), ("proc/self/fd/" ++ toString n, .descriptor n)]

/-- The files of a fresh system. -/
def FileSystem.base : FileSystem :=
  let entries : List Entry :=
    directories.map (fun path => .directory path.toList) ++
      links.map (fun (path, target) => .link path.toList target.toList) ++
      [.file "etc/passwd".toList "root:x:0:0:root:/root:/bin/sh\n".toList 0o644,
        .file "etc/hostname".toList "localhost\n".toList 0o644,
        .file "etc/hosts".toList "127.0.0.1\tlocalhost\n".toList 0o644]
  let nodes : List (String × Node × Nat) :=
    installed.map (fun (name, program) => ("usr/bin/" ++ name, .program program, 0o755)) ++
      devices.map fun (path, device) => (path, .device device, 0o666)
  nodes.foldl (fun fs (path, node, mode) =>
    match fs.place maxLinks root path.toList with
    | .ok p => (fs.addAt p node mode).toOption.getD fs
    | .error _ => fs) (empty.layAll root entries)

end LineShell.Unix
