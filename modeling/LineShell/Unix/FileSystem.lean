import LineShell.Host.Basic
import LineShell.Unix.Octets
import LineShell.Unix.Reason

/-! A file system. Files are known by number, and a directory that is removed keeps its number, so a
working directory can outlive its path. Paths are walked name by name; symbolic links are followed
up to a limit. All files belong to one user, who is bound by their modes as any owner is. Every
operation that fails answers with a reason alone. -/

namespace LineShell.Unix

/-- The number of a file. -/
abbrev Inode := Nat

/-- The programs of the system. -/
inductive Program
  | bracket
  | cat
  | echo
  | false
  | ls
  | mkdir
  | printenv
  | printf
  | rm
  | rmdir
  | sh
  | test
  | touch
  | tr
  | true
  deriving DecidableEq, Repr

/-- Files without contents of their own. -/
inductive Device
  | null
  /-- Takes no bytes. -/
  | full
  /-- The terminal of a process; none has one. -/
  | terminal
  /-- Whatever a process has open under a number. -/
  | descriptor (fd : Nat)
  deriving DecidableEq, Repr

/-- What a file is. -/
inductive Node
  /-- A directory knows the one above it and has entries in the order of their making. -/
  | directory (parent : Inode) (entries : List (Octets × Inode))
  | regular (contents : Octets)
  | program (program : Program)
  | link (target : Octets)
  | device (device : Device)
  deriving DecidableEq, Repr

/-- A file. Times are in nanoseconds. -/
structure File where
  node : Node
  mode : Nat
  modified : Int
  accessed : Int
  /-- When anything about the file was changed, and when it was made. -/
  changed : Int := modified
  made : Int := modified
  deriving DecidableEq, Repr

/-- All files. The root directory has number 0. -/
structure FileSystem where
  files : Array File
  now : Int

/-- How a file is to be opened. -/
structure OpenMode where
  reads : Bool := false
  writes : Bool := false
  /-- A file that does not exist is made. -/
  creates : Bool := false
  truncates : Bool := false
  /-- Bytes are written behind the last one, wherever that is by then. -/
  appends : Bool := false
  /-- A file that exists is refused. -/
  exclusive : Bool := false
  deriving DecidableEq, Repr

/-- The place that a path leads to: a directory and the last name on the path. A path to the root
has no last name and counts as `.` there. -/
structure Place where
  parent : Inode
  last : Octets
  /-- The path has a slash at its end. -/
  slash : Bool
  deriving DecidableEq, Repr

/-- Whether a place has a name of its own, other than `.` and `..`. -/
def Place.isNamed (p : Place) : Bool := p.last ≠ ['.'] && p.last ≠ ['.', '.']

namespace FileSystem

def root : Inode := 0

/-- The time at which a fresh system starts. -/
def epoch : Int := 1767225600 * 1000000000

/-- The root directory alone. -/
def empty : FileSystem :=
  ⟨#[{ node := .directory root [], mode := 0o755, modified := epoch, accessed := epoch }], epoch⟩

/-- The first and the last second that the time of a file can be. -/
def firstSecond : Int := -2147483648

def lastSecond : Int := 15032385535

/-- The nearest time that a file can have. -/
def storable (t : Int) : Int :=
  let nano := 1000000000
  max (firstSecond * nano) (min (lastSecond * nano) t)

/-- The longest name in a directory. -/
def maxFileName : Nat := 255

/-- The longest path. -/
def maxPath : Nat := 4095

/-- The most symbolic links that one path leads through. -/
def maxLinks : Nat := 40

/-- The names on a path. -/
def names (path : Octets) : List Octets := (Text.cut '/' path).filter (· ≠ [])

/-- The steps to take along a path; a slash at its end asks for a directory, which is a step with an
empty name. -/
def steps (path : Octets) : List Octets :=
  names path ++ if path.getLast? = some '/' then [[]] else []

/-- Where a path starts. -/
def origin (dir : Inode) (path : Octets) : Inode := if path.head? = some '/' then root else dir

/-- What a file is. -/
def node? (fs : FileSystem) (i : Inode) : Option Node := fs.files[i]?.map (·.node)

/-- The entries of a directory. -/
def entriesOf (fs : FileSystem) (dir : Inode) : List (Octets × Inode) :=
  match fs.node? dir with
  | some (.directory _ entries) => entries
  | _ => []

/-- What may be done with a file. -/
inductive Access
  | read
  | write
  /-- To run a file, or to go through a directory. -/
  | execute
  deriving DecidableEq, Repr

/-- Whether the mode of a file lets its owner do something with it. -/
def allows (fs : FileSystem) (i : Inode) (access : Access) : Bool :=
  let bit := match access with
    | .read => 0o400
    | .write => 0o200
    | .execute => 0o100
  (fs.files[i]?).any (·.mode &&& bit != 0)

/-- Refuses what the mode of a file does not allow. -/
def demand (fs : FileSystem) (i : Inode) (access : Access) : Except Reason Unit :=
  if fs.allows i access then .ok () else .error .accessDenied

/-- Whether a directory is still in the one above it. -/
def isLinked (fs : FileSystem) (dir : Inode) : Bool :=
  match fs.node? dir with
  | some (.directory parent _) => dir == root || (fs.entriesOf parent).any (·.2 == dir)
  | _ => false

/-- Why a name is not found in a directory. -/
def absence (fs : FileSystem) (dir : Inode) (name : Octets) : Reason :=
  if name.length > maxFileName ∧ fs.isLinked dir then .nameTooLong else .noEntry

/-- Walks from a directory along names, through links. A link at the very end is only followed if
that is asked for. -/
def walk (fs : FileSystem) (follow : Bool) (links : Nat) (dir : Inode) :
    List Octets → Except Reason Inode
  | [] => .ok dir
  | name :: rest =>
    match fs.node? dir with
    | some (.directory parent entries) =>
      if name = [] then fs.walk follow links dir rest
      else if !fs.allows dir .execute then .error .accessDenied
      else if name = ['.'] then fs.walk follow links dir rest
      else if name = ['.', '.'] then fs.walk follow links parent rest
      else
        match entries.lookup name with
        | none => .error (fs.absence dir name)
        | some i =>
          match fs.node? i with
          | some (.link target) =>
            if rest = [] ∧ !follow then .ok i
            else
              match links with
              | 0 => .error .tooManyLinks
              | links + 1 => fs.walk follow links (origin dir target) (steps target ++ rest)
          | _ => fs.walk follow links i rest
    | _ => .error .notDirectory
termination_by names => (links, names.length)

/-- Checks a path before it is walked. -/
def checkPath (path : Octets) : Except Reason Unit :=
  if path = [] then .error .noEntry
  else if path.length > maxPath then .error .nameTooLong
  else .ok ()

/-- The file that a path names, seen from a directory. -/
def resolve (fs : FileSystem) (dir : Inode) (path : Octets) (follow : Bool := true) :
    Except Reason Inode := do
  checkPath path
  fs.walk follow maxLinks (origin dir path) (steps path)

/-- The directory that a path names. -/
def directory (fs : FileSystem) (dir : Inode) (path : Octets) : Except Reason Inode := do
  let i ← fs.resolve dir path
  match fs.node? i with
  | some (.directory _ _) => .ok i
  | _ => .error .notDirectory

/-- The directory that a path names, if one may work in it. -/
def workplace (fs : FileSystem) (dir : Inode) (path : Octets) : Except Reason Inode := do
  let i ← fs.directory dir path
  fs.demand i .execute
  return i

/-- The place that a path leads to. -/
def place (fs : FileSystem) (links : Nat) (dir : Inode) (path : Octets) : Except Reason Place := do
  checkPath path
  let all := names path
  let parent ← fs.walk true links (origin dir path) all.dropLast
  match fs.node? parent with
  | some (.directory _ _) => do
    if all ≠ [] then fs.demand parent .execute
    return ⟨parent, all.getLastD ['.'], path.getLast? = some '/'⟩
  | _ => .error .notDirectory

/-- The file at a place that has a name of its own. -/
def child? (fs : FileSystem) (p : Place) : Option Inode := (fs.entriesOf p.parent).lookup p.last

/-- Changes a file. -/
def modify (fs : FileSystem) (i : Inode) (change : File → File) : FileSystem :=
  { fs with files := fs.files.modify i change }

/-- Changes the entries of a directory. -/
def modifyEntries (fs : FileSystem) (dir : Inode)
    (change : List (Octets × Inode) → List (Octets × Inode)) : FileSystem :=
  fs.modify dir fun f =>
    match f.node with
    | .directory parent entries =>
      { f with
        node := .directory parent (change entries), modified := fs.now, changed := fs.now }
    | _ => f

/-- Adds a file to a directory under a name. -/
def add (fs : FileSystem) (dir : Inode) (name : Octets) (node : Node) (mode : Nat) : FileSystem :=
  let file : File := { node, mode, modified := fs.now, accessed := fs.now }
  { fs with files := fs.files.push file }.modifyEntries dir
    (· ++ [(name, fs.files.size)])

/-- Takes a name out of a directory. -/
def drop (fs : FileSystem) (p : Place) : FileSystem :=
  fs.modifyEntries p.parent (·.filter (·.1 ≠ p.last))

/-- Adds a file at a place where none is yet. -/
def addAt (fs : FileSystem) (p : Place) (node : Node) (mode : Nat) : Except Reason FileSystem :=
  if p.last.length > maxFileName ∨ !fs.isLinked p.parent then .error (fs.absence p.parent p.last)
  else do
    fs.demand p.parent .write
    return fs.add p.parent p.last node mode

/-- Makes a directory. -/
def mkdir (fs : FileSystem) (dir : Inode) (path : Octets) (mode : Nat) :
    Except Reason FileSystem := do
  let p ← fs.place maxLinks dir path
  if !p.isNamed || (fs.child? p).isSome then .error .fileExists
  else fs.addAt p (.directory p.parent []) mode

/-- Makes a symbolic link. -/
def symlink (fs : FileSystem) (dir : Inode) (path target : Octets) : Except Reason FileSystem := do
  let p ← fs.place maxLinks dir path
  if !p.isNamed || (fs.child? p).isSome then .error .fileExists
  else if p.slash then .error .noEntry
  else fs.addAt p (.link target) 0o777

/-- Removes a file that is no directory. -/
def unlink (fs : FileSystem) (dir : Inode) (path : Octets) : Except Reason FileSystem := do
  let p ← fs.place maxLinks dir path
  if !p.isNamed then throw .isDirectory
  match fs.child? p with
  | none => .error (fs.absence p.parent p.last)
  | some i =>
    match fs.node? i with
    | some (.directory _ _) => do
      if !p.slash then fs.demand p.parent .write
      .error .isDirectory
    | _ => do
      if p.slash then throw .notDirectory
      fs.demand p.parent .write
      return fs.drop p

/-- Removes a directory that is empty. -/
def rmdir (fs : FileSystem) (dir : Inode) (path : Octets) : Except Reason FileSystem := do
  let p ← fs.place maxLinks dir path
  if names path = [] then throw .busy
  if p.last = ['.'] then throw .invalid
  if p.last = ['.', '.'] then throw .notEmpty
  match fs.child? p with
  | none => .error (fs.absence p.parent p.last)
  | some i => do
    fs.demand p.parent .write
    match fs.node? i with
    | some (.directory _ []) => .ok (fs.drop p)
    | some (.directory _ _) => .error .notEmpty
    | _ => .error .notDirectory

/-- Changes the contents of a file that has any. -/
def setContents (fs : FileSystem) (i : Inode) (change : Octets → Octets) : FileSystem :=
  fs.modify i fun f =>
    match f.node with
    | .regular contents => { f with
        node := .regular (change contents), modified := fs.now, changed := fs.now }
    | _ => f

/-- Opens the file that a path names and makes it if that is asked for; a link at the end is
followed. -/
def openFile (fs : FileSystem) (how : OpenMode) (mode : Nat) (dir : Inode) (path : Octets)
    (links : Nat := maxLinks) : Except Reason (FileSystem × Inode) := do
  let ready (i : Inode) : Except Reason (FileSystem × Inode) := do
    if let some (.directory _ _) := fs.node? i then
      if how.writes || how.creates then throw .isDirectory
    if how.reads then fs.demand i .read
    if how.writes then fs.demand i .write
    match fs.node? i with
    | some (.regular _) =>
      return (if how.truncates then fs.setContents i fun _ => [] else fs, i)
    | some (.device .terminal) => .error .noDevice
    | some _ => return (fs, i)
    | none => .error .noEntry
  if !how.creates then ready (← fs.resolve dir path)
  else
    let p ← fs.place links dir path
    if !p.isNamed || p.slash then .error .isDirectory
    else
      match fs.child? p with
      | none => return (← fs.addAt p (.regular []) mode, fs.files.size)
      | some i =>
        if how.exclusive then .error .fileExists
        else
          match fs.node? i, links with
          | some (.link _), 0 => .error .tooManyLinks
          | some (.link target), links + 1 => fs.openFile how mode p.parent target links
          | _, _ => ready i
termination_by links

/-- The names on the way down to a directory, with those below it behind them. There is no way if
the directory was removed. -/
def climb (fs : FileSystem) : Nat → Inode → List Octets → Option (List Octets)
  | 0, _, _ => none
  | fuel + 1, i, below =>
    if i = root then some below
    else
      match fs.node? i with
      | some (.directory parent _) =>
        match (fs.entriesOf parent).find? (·.2 = i) with
        | some (name, _) => fs.climb fuel parent (name :: below)
        | none => none
      | _ => none

/-- The absolute path of a directory. -/
def pathOf (fs : FileSystem) (dir : Inode) : Except Reason Octets :=
  match fs.climb fs.files.size dir [] with
  | some names => .ok ('/' :: ['/'].intercalate names)
  | none => .error .noEntry

/-- The size of a file. -/
def sizeOf (fs : FileSystem) (i : Inode) : Nat :=
  match fs.node? i with
  | some (.regular contents) => contents.length
  | some (.directory _ _) => 4096
  | some (.link target) => target.length
  | some (.program _) => 35000
  | _ => 0

end FileSystem

end LineShell.Unix
