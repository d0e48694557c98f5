import LineShell.Unix.Tool

/-! Removing files and, if asked for, directories with all that is in them. A directory stays if
something in it does. -/

namespace LineShell.Unix

namespace Remove

/-- When the user is asked. -/
inductive Asking
  | never
  /-- Once, if there is much to remove. -/
  | once
  | always
  deriving DecidableEq

/-- How files are removed. -/
structure Settings where
  recursive : Bool := false
  emptyDirectories : Bool := false
  verbose : Bool := false
  /-- A file that does not exist is no failure. -/
  force : Bool := false
  asking : Asking := .never
  preserveRoot : Bool := true

/-- What came of an attempt. -/
inductive Outcome
  | removed
  /-- The user wants to keep the file. -/
  | kept
  /-- The user wants to keep a directory with all that is in it, so those above it stay too. -/
  | barred
  | failed
  deriving DecidableEq

/-- The words for a kind of file. -/
def kindName (facts : Facts) : String :=
  match facts.kind with
  | .regular => if facts.size = 0 then "regular empty file" else "regular file"
  | .directory => "directory"
  | .link => "symbolic link"
  | .character => "character special file"
  | .pipe => "fifo"

/-- Reads an answer: the first letter of a line. -/
def answer : Nat → Option Char → Tool Bool
  | 0, first => return first.any fun c => c == 'y' || c == 'Y'
  | fuel + 1, first => do
    match ← Tool.take 0 1 with
    | .ok [c] =>
      if c = '\n' then return first.any fun c => c == 'y' || c == 'Y'
      else answer fuel (some (first.getD c))
    | _ => return first.any fun c => c == 'y' || c == 'Y'

/-- Asks the user. -/
def confirm (question : Octets) : Tool Bool := do
  discard Tool.flush
  discard <| Tool.write 2 ((← read).name ++ ": ".toList ++ question ++ "? ".toList)
  answer 0x10000 none

/-- Whether the user is asked and says no. -/
def Settings.declines (s : Settings) (question : Octets) : Tool Bool := do
  if s.asking = .always then return !(← confirm question) else return false

/-- Whether a failure counts as a file that does not exist. -/
def Settings.ignores (s : Settings) (e : Reason) : Bool :=
  s.force && (e == .noEntry || e == .notDirectory || e == .invalid)

/-- Complains about a file that stays. -/
def complain (shown : Octets) (e : Reason) : Tool Outcome := do
  Tool.complain ("cannot remove ".toList ++ quoteName shown) e
  return .failed

/-- Removes a file, or a directory that is empty by now. A directory that could not be read may have
been full all the time. -/
def excise (s : Settings) (dir : Inode) (access shown : Octets) (isDirectory : Bool)
    (readable : Bool := true) : Tool Outcome := do
  match ← Tool.change fun _ fs => if isDirectory then fs.rmdir dir access else fs.unlink dir access
    with
  | .ok () =>
    if s.verbose then
      Tool.printLine
        ((if isDirectory then "removed directory " else "removed ").toList ++ quoteName shown)
    return .removed
  | .error e =>
    if s.ignores e then return .removed
    else complain shown (if !readable && e == .notEmpty then .accessDenied else e)

/-- A path with another name at its end. -/
def join (path name : Octets) : Octets :=
  if path.getLast? = some '/' then path ++ name else path ++ '/' :: name

/-- Removes what a name stands for in a directory. -/
def entry (s : Settings) : Nat → Bool → Inode → Octets → Octets → Tool Outcome
  | 0, _, _, _, shown => complain shown .tooManyLinks
  | fuel + 1, top, dir, access, shown => do
    let fs ← Tool.files
    match fs.resolve dir access false with
    | .error _ => excise s dir access shown false
    | .ok i =>
      match fs.node? i with
      | some (.directory _ entries) =>
        let last := (FileSystem.names access).getLastD []
        let readable := fs.allows i .read
        if !s.recursive && !(s.emptyDirectories && (entries.isEmpty || !readable)) then
          complain shown (if s.emptyDirectories then .notEmpty else .isDirectory)
        else if top && (last = ['.'] || last = ['.', '.']) then
          Tool.complain ("refusing to remove '.' or '..' directory: skipping ".toList ++
            quoteName shown)
          return .failed
        else if top && s.preserveRoot && i == FileSystem.root then
          let same := if shown = ['/'] then [] else " (same as '/')".toList
          Tool.complain
            ("it is dangerous to operate recursively on ".toList ++ quoteName shown ++ same)
          Tool.complain "use --no-preserve-root to override this failsafe".toList
          return .failed
        else if !readable then
          if s.asking = .always && !s.emptyDirectories then complain shown .accessDenied
          else
            let what := if s.recursive then "remove directory "
              else "attempt removal of inaccessible directory "
            if ← s.declines (what.toList ++ quoteName shown) then return .kept
            excise s dir access shown true false
        else if entries.isEmpty then
          if ← s.declines ("remove directory ".toList ++ quoteName shown) then return .barred
          excise s dir access shown true
        else
          if ← s.declines ("descend into directory ".toList ++ quoteName shown) then
            return .barred
          let outcomes ← entries.mapM fun (name, _) => entry s fuel false i name (join shown name)
          if outcomes.contains .failed then return .failed
          if outcomes.contains .barred then return .barred
          if ← s.declines ("remove directory ".toList ++ quoteName shown) then return .kept
          excise s dir access shown true
      | _ =>
        let kind := ((fs.facts i).toOption.map kindName).getD ""
        if ← s.declines ("remove ".toList ++ kind.toList ++ ' ' :: quoteName shown) then
          return .kept
        excise s dir access shown false

/-- A path with at most one slash at its end. -/
def trim (path : Octets) : Octets :=
  let bare := (path.reverse.dropWhile (· = '/')).reverse
  if path.length > bare.length + 1 then (if bare = [] then ['/'] else bare ++ ['/']) else path

def switches : List Switch := [⟨['f'], ["force"], .none⟩, ⟨['i'], [], .none⟩, ⟨['I'], [], .none⟩,
  ⟨[], ["interactive"], .optional⟩, ⟨[], ["one-file-system"], .none⟩,
  ⟨[], ["no-preserve-root"], .none⟩, ⟨[], ["preserve-root"], .optional⟩,
  ⟨[], ["-presume-input-tty"], .none⟩, ⟨['r', 'R'], ["recursive"], .none⟩, ⟨['d'], ["dir"], .none⟩,
  ⟨['v'], ["verbose"], .none⟩, ⟨[], ["help"], .none⟩, ⟨[], ["version"], .none⟩]

/-- The values of `--interactive`. -/
def askingNames : List (Asking × List String) :=
  [(.never, ["never", "no", "none"]), (.once, ["once"]), (.always, ["always", "yes"])]

/-- The settings with an option added. -/
def set (s : Settings) (o : Choice) : Tool Settings :=
  match o.key with
  | "f" => return { s with force := true, asking := .never }
  | "i" => return { s with force := false, asking := .always }
  | "I" => return { s with force := false, asking := .once }
  | "r" => return { s with recursive := true }
  | "d" => return { s with emptyDirectories := true }
  | "v" => return { s with verbose := true }
  | "no-preserve-root" => return { s with preserveRoot := false }
  | "preserve-root" => return { s with preserveRoot := true }
  | "interactive" => do
    if !o.hasArgument then return { s with force := false, asking := .always }
    let asking ← Tool.word "--interactive" askingNames o.argument
    return { s with asking, force := s.force && asking == .never }
  | _ => return s

end Remove

/-- Removes files. -/
def Tool.rm : Tool Nat := do
  let p ← read
  let o := Options.read Remove.switches (p.getenv? "POSIXLY_CORRECT").isSome p.args
  let s ← o.choices.foldlM Remove.set ({} : Remove.Settings)
  if let some problem := o.problem then
    Tool.tell (p.name ++ ": ".toList ++ problem)
    for arg in p.args do
      if arg.head? = some '-' && arg.length > 1 then
        if (← Tool.ask (·.stat arg false)) matches .ok _ then
          Tool.tell ("Try '".toList ++ p.name ++ " ./".toList ++ quoteIfNeeded arg ++
            "' to remove the file ".toList ++ quoteName arg ++ ['.'])
          break
    Tool.pointToHelp 1
  if o.operands = [] then
    if s.force then return 0 else Tool.misuse 1 "missing operand".toList
  let n := o.operands.length
  if s.asking = .once && (s.recursive || n > 3) then
    let question := "remove ".toList ++ Text.ofNat n ++
      (if n = 1 then " argument" else " arguments").toList ++
      if s.recursive then " recursively".toList else []
    if !(← Remove.confirm question) then return 0
  let depth := (← Tool.files).files.size + 1
  let ok ← Tool.forEach o.operands fun path => do
    let path := Remove.trim path
    return (← Remove.entry s depth true p.dir path path) != .failed
  return if ok then 0 else 1

end LineShell.Unix
