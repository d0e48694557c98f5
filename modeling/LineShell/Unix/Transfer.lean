import LineShell.Unix.Iterate
import LineShell.Unix.Task

/-! Reading and writing. Both wait for pipes: a reader for bytes as long as somebody could write
some, a writer for room as long as somebody could read. A signal ends the waiting. -/

namespace LineShell.Unix

/-- The most bytes that wait in a pipe. -/
def pipeCapacity : Nat := 0x10000

/-- So many bytes are written to a pipe in one piece. -/
def pieceSize : Nat := 4096

namespace Process

/-- Reads at most so many bytes; there are none at the end. -/
def read (p : Process) (fd limit : Nat) : Task (Except Reason Octets) := do
  match ← Task.ask (p.description? fd) with
  | none => return .error .badDescriptor
  | some (index, d) =>
    if !d.how.reads then return .error .badDescriptor
    match d.target with
    | .stream _ => return .ok []
    | .pipe n =>
      let isReady (m : Machine) : Bool := (m.pipes.getD n {}).size > 0 || !m.hasWriter n
      Task.await fun m => isReady m || m.isSignalled p.pid
      Task.ask fun m =>
        if isReady m then
          let (bytes, rest) := (m.pipes.getD n {}).take limit
          (.ok bytes, { m with pipes := m.pipes.setIfInBounds n rest })
        else (.error .interrupted, m)
    | .file i => Task.ask do
      match (← get).files.node? i with
      | some (.directory _ _) => return .error .isDirectory
      | some (.regular contents) =>
        let bytes := (contents.drop d.offset).take limit
        let d := { d with offset := d.offset + bytes.length }
        modify fun m => { m with descriptions := m.descriptions.setIfInBounds index d }
        return .ok bytes
      | _ => return .ok []

/-- Writes bytes as far as there is room for them, and answers with the rest. -/
def writeSome (p : Process) (fd : Nat) (bytes : Octets) : Task (Except Reason Octets) := do
  match ← Task.ask (p.description? fd) with
  | none => return .error .badDescriptor
  | some (index, d) =>
    if !d.how.writes then return .error .badDescriptor
    match d.target with
    | .stream s => Task.ask do
      modify fun m => { m with writes := ⟨s, bytes.toBytes⟩ :: m.writes }
      return .ok []
    | .pipe n =>
      let room (m : Machine) : Nat := pipeCapacity - (m.pipes.getD n {}).size
      let isReady (m : Machine) : Bool :=
        min bytes.length pieceSize ≤ room m || !m.hasReader n
      Task.await fun m => isReady m || m.isSignalled p.pid
      Task.ask fun m =>
        if !m.hasReader n then (.error .brokenPipe, m)
        else if isReady m then
          let queue := (m.pipes.getD n {}).push (bytes.take (room m))
          (.ok (bytes.drop (room m)), { m with pipes := m.pipes.setIfInBounds n queue })
        else (.error .interrupted, m)
    | .file i => Task.ask do
      match (← get).files.node? i with
      | some (.device .full) => return if bytes = [] then .ok [] else .error .noSpace
      | some (.regular contents) =>
        let offset := if d.how.appends then contents.length else d.offset
        let fitting := ((p.limit .fileSize).soft.elim bytes.length (· - offset))
        let now := bytes.take fitting
        if now = [] ∧ bytes ≠ [] then
          Machine.send p.pid Machine.oversizeSignal
          return .error .fileTooLarge
        let d := { d with offset := offset + now.length }
        modify fun m => { m with
          files := m.files.setContents i fun _ => overwrite contents offset now
          descriptions := m.descriptions.setIfInBounds index d }
        return .ok (bytes.drop fitting)
      | _ => return .ok []

/-- Whether a file that is written to has reached the size that it may have. The process is told
so. -/
def isFull (p : Process) (fd : Nat) : StateM Machine Bool := do
  match ← p.description? fd, (p.limit .fileSize).soft with
  | some (_, ⟨.file _, _, offset⟩), some size =>
    if offset < size then return false
    else
      Machine.send p.pid Machine.oversizeSignal
      return true
  | _, _ => return false

section

variable {m : Type → Type} [Monad m] [MonadLiftT Task m]

/-- Reads at most so many bytes; when that is interrupted something else is done first. -/
def readPatiently (p : Process) (fd limit : Nat) (heed : m Unit) : m (Except Reason Octets) :=
  iterate (return .error .interrupted) (fun () => do
    match ← liftM (p.read fd limit) with
    | .error .interrupted =>
      heed
      return .inl ()
    | answer => return .inr answer) maxSteps ()

/-- The number of bytes that are read in one piece. -/
def blockSize : Nat := 0x20000

/-- Reads as long as there is anything to come. -/
def readAll (p : Process) (fd : Nat) (heed : m Unit) : m (Except Reason Octets) :=
  iterate (return .error .interrupted) (fun (blocks : List Octets) => do
    match ← p.readPatiently fd blockSize heed with
    | .ok [] => return .inr (.ok blocks.reverse.flatten)
    | .ok block => return .inl (block :: blocks)
    | .error e => return .inr (.error e)) maxSteps []

/-- Writes all of some bytes; when that is interrupted or fails something else is done first. -/
def writeAll (p : Process) (fd : Nat) (heed : m Unit) (bytes : Octets) : m (Except Reason Unit) :=
  iterate (return .error .interrupted) (fun bytes => do
    match ← liftM (p.writeSome fd bytes) with
    | .ok [] => return .inr (.ok ())
    | .ok rest => return .inl rest
    | .error .interrupted =>
      heed
      return .inl bytes
    | .error e =>
      heed
      return .inr (.error e)) maxSteps bytes

end

end Process

end LineShell.Unix
