import LineShell.Unix.FileSystem

/-! The state that all processes share, and the requests that a process makes of it and that are
answered at once. What is open is known by number, so two processes can share one place in a file.
Every process has a table of its own from descriptors to what is open; the numbers from ten on are
those that a shell keeps for itself. -/

namespace LineShell.Unix

/-- Where bytes come from or go to. -/
inductive Target
  | file (i : Inode)
  /-- A stream of the program that was started first. -/
  | stream (s : Stream)
  | pipe (number : Nat)
  deriving DecidableEq, Repr

/-- Something that is open. -/
structure Description where
  target : Target
  how : OpenMode
  offset : Nat := 0
  deriving DecidableEq, Repr

/-- Bytes that wait to be read. -/
structure Queue where
  front : Octets := []
  /-- The bytes behind those of the front, the last one first. -/
  back : Octets := []
  size : Nat := 0
  deriving DecidableEq, Repr

namespace Queue

/-- The bytes in the order in which they will be read. -/
def toList (q : Queue) : Octets := q.front ++ q.back.reverse

def push (q : Queue) (bytes : Octets) : Queue :=
  { q with back := bytes.reverse ++ q.back, size := q.size + bytes.length }

/-- Takes at most so many bytes from the front. -/
def take (q : Queue) (limit : Nat) : Octets × Queue :=
  let front := if limit ≤ 1 ∧ q.front ≠ [] then q.front else q.toList
  let back := if limit ≤ 1 ∧ q.front ≠ [] then q.back else []
  let bytes := front.take limit
  (bytes, ⟨front.drop limit, back, q.size - bytes.length⟩)

@[simp]
theorem toList_push (q : Queue) (bytes : Octets) : (q.push bytes).toList = q.toList ++ bytes := by
  simp [toList, push]

theorem take_append (q : Queue) (limit : Nat) :
    (q.take limit).1 ++ (q.take limit).2.toList = q.toList := by
  unfold take
  split
  · simp only [toList]
    rw [← List.append_assoc, List.take_append_drop]
  · simp [toList]

end Queue

/-- A process that has not ended. -/
structure Living where
  pid : Nat
  parent : Nat
  /-- What is open, by descriptor. -/
  descriptors : List (Nat × Nat)

/-- A process that has ended and was not yet waited for. -/
structure Ended where
  pid : Nat
  parent : Nat
  status : ExitStatus

/-- What all processes share. -/
structure Machine where
  files : FileSystem
  descriptions : Array Description := #[]
  /-- What is still to be read from each pipe. -/
  pipes : Array Queue := #[]
  /-- All writes to streams, the last one first. -/
  writes : List Write := []
  /-- The processes, the last one first. -/
  living : List Living := []
  /-- Those that have ended, the last one first. -/
  ended : List Ended := []
  nextPid : Nat := 1000
  /-- Signals that wait for a process to notice them, the last one first. -/
  signals : List (Nat × Nat) := []
  /-- The number of commands that may still be run. -/
  budget : Nat
  /-- The number of them that may be run before it is the turn of another process. -/
  turn : Nat := 0

/-- What a process may use of something; it can raise the first bound as far as the second. Without
a bound there is no limit. -/
structure Limit where
  soft : Option Nat
  hard : Option Nat
  deriving DecidableEq, Repr

/-- Things of which a process may not use more than so much. -/
inductive Resource
  | time
  | fileSize
  | data
  | stack
  | core
  | residentMemory
  | lockedMemory
  | processes
  | openFiles
  | memory
  | locks
  | priority
  deriving DecidableEq, Repr

namespace Resource

/-- What a process may use unless it was told otherwise. -/
def standard : Resource → Limit
  | stack => ⟨some 0x800000, none⟩
  | core => ⟨some 0, none⟩
  | lockedMemory => ⟨some 0x800000, some 0x800000⟩
  | openFiles => ⟨some 1048576, some 1048576⟩
  | priority => ⟨some 0, some 0⟩
  | _ => ⟨none, none⟩

end Resource

/-- What a process has of its own. -/
structure Process where
  pid : Nat
  parent : Nat
  /-- The name that the program was started by. -/
  name : Octets
  args : List Octets
  environment : List (Octets × Octets)
  dir : Inode
  umask : Nat := 0o022
  /-- Signals that have no effect. -/
  ignored : List Nat := []
  /-- The limits that are not the standard ones. -/
  limits : List (Resource × Limit) := []

/-- What kind of file a file is. -/
inductive Kind
  | regular
  | directory
  | link
  | character
  | pipe
  deriving DecidableEq, Repr

/-- What can be found out about a file without opening it. -/
structure Facts where
  identity : Target
  kind : Kind
  mode : Nat
  size : Nat
  modified : Int
  accessed : Int
  changed : Int := modified
  made : Int := modified
  deriving DecidableEq, Repr

namespace FileSystem

/-- What can be found out about a file. -/
def facts (fs : FileSystem) (i : Inode) : Except Reason Facts :=
  match fs.files[i]? with
  | none => .error .noEntry
  | some f =>
    let kind := match f.node with
      | .directory _ _ => .directory
      | .regular _ | .program _ => .regular
      | .link _ => .link
      | .device _ => .character
    .ok ⟨.file i, kind, f.mode, fs.sizeOf i, f.modified, f.accessed, f.changed, f.made⟩

end FileSystem

namespace Machine

/-- A thing with a number that is not yet taken. -/
def openNew (d : Description) : StateM Machine Nat := fun m =>
  (m.descriptions.size, { m with descriptions := m.descriptions.push d })

/-- A new pipe: the ends to read from and to write to. -/
def pipe (contents : Octets := []) : StateM Machine (Nat × Nat) := do
  let number := (← get).pipes.size
  modify fun m => { m with pipes := m.pipes.push (Queue.push {} contents) }
  let reader ← openNew ⟨.pipe number, { reads := true }, 0⟩
  let writer ← openNew ⟨.pipe number, { writes := true }, 0⟩
  return (reader, writer)

/-- What a process has open, by descriptor. -/
def descriptors (m : Machine) (pid : Nat) : List (Nat × Nat) :=
  ((m.living.find? (·.pid == pid)).map (·.descriptors)).getD []

/-- A table of descriptors with one of them leading elsewhere. -/
def connected (fd : Nat) (index : Option Nat) (table : List (Nat × Nat)) : List (Nat × Nat) :=
  index.toList.map (fd, ·) ++ table.filter (·.1 ≠ fd)

/-- Changes what a process has open. -/
def updateTable (pid : Nat) (change : List (Nat × Nat) → List (Nat × Nat)) : StateM Machine Unit :=
  modify fun m => { m with living := m.living.map fun l =>
    if l.pid = pid then { l with descriptors := change l.descriptors } else l }

/-- Lets a descriptor lead somewhere else. -/
def connect (pid fd : Nat) (index : Option Nat) : StateM Machine Unit :=
  updateTable pid (connected fd index)

/-- The first descriptor that scripts do not know. -/
def firstHidden : Nat := 10

/-- Keeps something open under a descriptor that scripts do not know. -/
def keep (pid index : Nat) : StateM Machine Nat := do
  let table := (← get).descriptors pid
  let free := (List.range (table.length + 1)).map (· + firstHidden)
    |>.find? fun fd => (table.lookup fd).isNone
  let fd := free.getD firstHidden
  connect pid fd (some index)
  return fd

/-- Closes what only the shell knows of. -/
def dropHidden (pid : Nat) : StateM Machine Unit :=
  updateTable pid (·.filter (·.1 < firstHidden))

/-- Whether what some process has open fulfils a condition. -/
def anyOpen (m : Machine) (test : Description → Bool) : Bool :=
  m.living.any fun l => l.descriptors.any fun (_, i) => (m.descriptions[i]?).any test

/-- Whether bytes may still be written to a pipe. -/
def hasWriter (m : Machine) (number : Nat) : Bool :=
  m.anyOpen fun d => d.target == .pipe number && d.how.writes

/-- Whether bytes in a pipe may still be read. -/
def hasReader (m : Machine) (number : Nat) : Bool :=
  m.anyOpen fun d => d.target == .pipe number && d.how.reads

/-- Makes a copy of a process, with some descriptors leading elsewhere, and answers with its
number. -/
def copyProcess (parent : Nat) (wires : List (Nat × Option Nat)) : StateM Machine Nat := fun m =>
  let table := wires.foldl (fun table (fd, index) => connected fd index table)
    (m.descriptors parent)
  (m.nextPid, { m with
    nextPid := m.nextPid + 1
    files.now := m.files.now + 4000000
    living := ⟨m.nextPid, parent, table⟩ :: m.living })

/-- Sends a signal to a process, if it has not ended. -/
def send (pid signal : Nat) : StateM Machine Unit :=
  modify fun m => if m.living.any (·.pid == pid) then
    { m with signals := (pid, signal) :: m.signals } else m

/-- The number of the signal that says that a process has ended. -/
def childSignal : Nat := 17

/-- The number of the signal that a process gets if it writes more to a file than it may. -/
def oversizeSignal : Nat := 25

/-- The number of the process whose children lost their parent. -/
def orphanage : Nat := 1

/-- Lets a process end. Its parent is told; its children have no parent any more. -/
def finish (pid : Nat) (status : ExitStatus) : StateM Machine Unit := do
  let parent := ((← get).living.find? (·.pid == pid)).elim orphanage (·.parent)
  modify fun m => { m with
    living := (m.living.filter (·.pid ≠ pid)).map fun l =>
      if l.parent = pid then { l with parent := orphanage } else l
    ended := (if parent = orphanage then [] else [⟨pid, parent, status⟩]) ++
      m.ended.filter (·.parent ≠ pid)
    signals := m.signals.filter (·.1 ≠ pid) }
  send parent childSignal

/-- Whether there is a process with a number, be it that it has ended. -/
def knows (m : Machine) (pid : Nat) : Bool :=
  m.living.any (·.pid == pid) || m.ended.any (·.pid == pid)

/-- Whether there are signals that a process has not yet noticed. -/
def isSignalled (m : Machine) (pid : Nat) : Bool := m.signals.any (·.1 == pid)

/-- Whether a process has children that have ended. -/
def isBereaved (m : Machine) (pid : Nat) : Bool := m.ended.any (·.parent == pid)

/-- Signals that have no effect on a process that does not ask for them. -/
def harmless : List Nat := [17, 18, 19, 20, 21, 22, 23, 28]

/-- Signals that a process has not yet noticed; they count as noticed from now on. -/
def takeSignals (pid : Nat) : StateM Machine (List Nat) := fun m =>
  let (mine, others) := m.signals.partition (·.1 == pid)
  (mine.reverse.map (·.2), { m with signals := others })

/-- The children of a process that have ended, which are forgotten. -/
def takeEnded (parent : Nat) : StateM Machine (List Ended) := fun m =>
  let (mine, others) := m.ended.partition (·.parent == parent)
  (mine.reverse, { m with ended := others })

/-- Carries out a change of the files that may be refused. -/
def change (f : FileSystem → Except Reason FileSystem) : StateM Machine (Except Reason Unit) :=
  fun m =>
    match f m.files with
    | .error e => (.error e, m)
    | .ok files => (.ok (), { m with files })

end Machine

namespace Process

/-- What a process may use of something. -/
def limit (p : Process) (r : Resource) : Limit := (p.limits.lookup r).getD r.standard

/-- The value of an environment variable. -/
def getenv? (p : Process) (name : String) : Option Octets := p.environment.lookup name.toList

/-- What is open under a descriptor. -/
def description? (p : Process) (fd : Nat) : StateM Machine (Option (Nat × Description)) := do
  let m ← get
  return do
    let i ← (m.descriptors p.pid).lookup fd
    return (i, ← m.descriptions[i]?)

/-- The facts about what is open under a descriptor. -/
def factsOf (p : Process) (fd : Nat) : StateM Machine (Except Reason Facts) := do
  match ← p.description? fd with
  | none => return .error .badDescriptor
  | some (_, d) =>
    match d.target with
    | .file i => return (← get).files.facts i
    | target =>
      let now := (← get).files.now
      return .ok {
        identity := target, kind := .pipe, mode := 0o600, size := 0, modified := now
        accessed := now }

/-- The facts about the file that a path names. -/
def stat (p : Process) (path : Octets) (follow : Bool := true) :
    StateM Machine (Except Reason Facts) := do
  let fs := (← get).files
  match fs.resolve p.dir path follow with
  | .error e => return .error e
  | .ok i =>
    match fs.node? i with
    | some (.device (.descriptor fd)) =>
      if follow then
        match ← p.factsOf fd with
        | .ok facts => return .ok facts
        | .error _ => return .error .noEntry
      else return .ok {
        identity := .file i, kind := .link, mode := 0o777, size := 15, modified := fs.now
        accessed := fs.now }
    | _ => return fs.facts i

/-- Opens a file. -/
def openPath (p : Process) (path : Octets) (how : OpenMode) (mode : Nat := 0o666) :
    StateM Machine (Except Reason Nat) := do
  let m ← get
  match m.files.openFile how (mode &&& (0o7777 ^^^ p.umask)) p.dir path with
  | .error e => return .error e
  | .ok (files, i) =>
    match files.node? i with
    | some (.device (.descriptor fd)) =>
      match ← p.description? fd with
      | none => return .error .noEntry
      | some (_, d) =>
        match d.target with
        | .file j =>
          if how.truncates then
            modify fun m => { m with files := m.files.setContents j fun _ => [] }
        | _ => pure ()
        return .ok (← Machine.openNew ⟨d.target, how, 0⟩)
    | _ =>
      set { m with files }
      return .ok (← Machine.openNew ⟨.file i, how, 0⟩)

/-- Bytes put over those from an offset on. -/
def overwrite (contents : Octets) (offset : Nat) (bytes : Octets) : Octets :=
  (contents.take offset).rightpad offset '\x00' ++ bytes ++ contents.drop (offset + bytes.length)

end Process

end LineShell.Unix
