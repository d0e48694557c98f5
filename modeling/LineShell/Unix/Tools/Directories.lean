import LineShell.Unix.Mode
import LineShell.Unix.Tool

/-! Making directories, and removing those that are empty. -/

namespace LineShell.Unix

namespace Directories

/-- How directories are made. -/
structure Making where
  parents : Bool := false
  verbose : Bool := false
  mode : Option Octets := none

/-- How directories are removed. -/
structure Removing where
  parents : Bool := false
  verbose : Bool := false
  /-- A directory that is not empty is no failure. -/
  tolerant : Bool := false

/-- Makes a directory; the one that the path starts from is given, and what its owner may do with it
at least. -/
def makeOne (dir : Inode) (path : Octets) (owner : Nat := 0) : Tool (Except Reason Unit) :=
  Tool.change fun p fs => fs.mkdir dir path (0o777 &&& (0o7777 ^^^ p.umask) ||| owner)

/-- Reports a directory that was made. -/
def announce (m : Making) (path : Octets) : Tool Unit := do
  if m.verbose then
    Tool.printLine ((← read).name ++ ": created directory ".toList ++ quoteName path)

/-- The names on a path with the part of it that leads up to each of them. The last one keeps the
slashes behind it. -/
def stages (path : Octets) : List (Octets × Octets) :=
  let slashes := path.takeWhile (· = '/')
  let rec go : Nat → Octets → Octets → List (Octets × Octets)
    | 0, _, _ => []
    | fuel + 1, done, rest =>
      let name := rest.takeWhile (· ≠ '/')
      let behind := rest.drop name.length
      let gap := behind.takeWhile (· = '/')
      let rest := behind.drop gap.length
      if rest = [] then [(name ++ gap, done ++ name ++ gap)]
      else (name, done ++ name) :: go fuel (done ++ name ++ gap) rest
  go path.length slashes (path.drop slashes.length)

/-- Makes the directories above the last name of a path that are missing. Answers with the
directory that the last name belongs to. -/
def makeAncestors (m : Making) :
    Inode → List (Octets × Octets) → Tool (Except (Octets × Reason) Inode)
  | dir, [] | dir, [_] => return .ok dir
  | dir, (name, path) :: rest => do
    if name = ['.'] then makeAncestors m dir rest
    else
      let made ← if name = ['.', '.'] then pure (.error .fileExists)
        else makeOne dir name 0o300
      if made matches .ok () then announce m path
      match (← Tool.files).workplace dir name, made with
      | .ok dir, _ => makeAncestors m dir rest
      | .error .noEntry, .error reason => return .error (path, reason)
      | .error reason, _ => return .error (path, reason)

/-- Gives a new directory its mode. -/
def setMode (dir : Inode) (path mode : Octets) : Tool Unit := do
  let p ← read
  let fs ← Tool.files
  match fs.resolve dir path, Mode.parse mode with
  | .ok i, some changes =>
    Tool.adjust (·.modify i fun f => { f with mode := Mode.apply changes true p.umask 0o777 })
  | _, _ => return

/-- Makes a directory and, if asked for, those above it. -/
def make (m : Making) (path : Octets) : Tool Bool := do
  let p ← read
  let fail (path : Octets) (e : Reason) : Tool Bool := do
    Tool.complain ("cannot create directory ".toList ++ quoteName path) e
    return false
  if !m.parents then
    match ← makeOne p.dir path with
    | .error e => fail path e
    | .ok () =>
      announce m path
      if let some mode := m.mode then setMode p.dir path mode
      return true
  else if path = [] then fail path .noEntry
  else
    match ← makeAncestors m (FileSystem.origin p.dir path) (stages path) with
    | .error (path, e) => fail path e
    | .ok dir =>
      let name := ((stages path).getLast?.map (·.1)).getD []
      if name = [] then return true
      match ← makeOne dir name with
      | .ok () =>
        announce m path
        if let some mode := m.mode then setMode dir name mode
        return true
      | .error e =>
        match e, (← Tool.files).resolve dir name with
        | .noEntry, _ => fail path e
        | _, .ok i =>
          if (← Tool.files).node? i matches some (.directory _ _) then return true
          else fail path e
        | .fileExists, .error reason =>
          if reason = .noEntry ∨ reason = .notDirectory then fail path e
          else
            Tool.complain ("cannot stat ".toList ++ quoteName path) reason
            return false
        | _, .error _ => fail path e

/-- A path without the slashes at its end. -/
def stripSlashes (path : Octets) : Octets :=
  let bare := (path.reverse.dropWhile (· = '/')).reverse
  if bare = [] then path.take 1 else bare

/-- The part of a path above its last name. -/
def parentPath? (path : Octets) : Option Octets :=
  if '/' ∈ path then
    let above := (path.reverse.dropWhile (· ≠ '/')).reverse
    some (stripSlashes above)
  else none

/-- Reports a directory that is about to be removed. -/
def announceRemoval (r : Removing) (path : Octets) : Tool Unit := do
  if r.verbose then
    Tool.printLine ((← read).name ++ ": removing directory, ".toList ++ quoteName path)

/-- Removes the directories above a path that was removed. -/
def removeAncestors (r : Removing) : Nat → Octets → Tool Bool
  | 0, _ => return true
  | fuel + 1, path => do
    match parentPath? path with
    | none => return true
    | some path =>
      announceRemoval r path
      match ← Tool.change fun p fs => fs.rmdir p.dir path with
      | .ok () => removeAncestors r fuel path
      | .error e =>
        if r.tolerant ∧ e = .notEmpty then return true
        let what := if e = .notDirectory then "failed to remove " else "failed to remove directory "
        Tool.complain (what.toList ++ quoteName path) e
        return false

/-- Removes a directory and, if asked for, those above it. -/
def remove (r : Removing) (path : Octets) : Tool Bool := do
  announceRemoval r path
  match ← Tool.change fun p fs => fs.rmdir p.dir path with
  | .ok () => if r.parents then removeAncestors r path.length (stripSlashes path) else return true
  | .error e =>
    if r.tolerant ∧ e = .notEmpty then return true
    let isLink (path : Octets) : Tool Bool := do
      match ← Tool.ask (·.stat path false) with
      | .ok facts => return facts.kind == .link
      | .error _ => return false
    let leads ← Tool.ask (·.stat path)
    let unfollowed := e == .notDirectory && path.getLast? == some '/' &&
      (match leads with
        | .ok facts => facts.kind == .directory
        | .error reason => reason != .notDirectory)
    let text := "failed to remove ".toList ++ quoteName path
    if unfollowed && (← isLink (stripSlashes path)) then
      Tool.complain (text ++ ": Symbolic link not followed".toList)
    else Tool.complain text e
    return false

end Directories

/-- Makes directories. -/
def Tool.mkdir : Tool Nat := do
  let switches : List Switch := [⟨['Z'], ["context"], .none⟩, ⟨['m'], ["mode"], .required⟩,
    ⟨['p'], ["parents"], .none⟩, ⟨['v'], ["verbose"], .none⟩, ⟨[], ["help"], .none⟩,
    ⟨[], ["version"], .none⟩]
  let (m, paths) ← Tool.options 1 switches ({} : Directories.Making) fun m o =>
    return match o.key with
      | "p" => { m with parents := true }
      | "v" => { m with verbose := true }
      | "m" => { m with mode := some o.argument }
      | _ => m
  if paths = [] then Tool.misuse 1 "missing operand".toList
  if let some mode := m.mode then
    if (Mode.parse mode).isNone then Tool.fail 1 ("invalid mode ".toList ++ quoteEscaped mode)
  return if ← Tool.forEach paths (Directories.make m) then 0 else 1

/-- Removes directories. -/
def Tool.rmdir : Tool Nat := do
  let switches : List Switch := [⟨[], ["ignore-fail-on-non-empty"], .none⟩,
    ⟨['p'], ["path", "parents"], .none⟩, ⟨['v'], ["verbose"], .none⟩, ⟨[], ["help"], .none⟩,
    ⟨[], ["version"], .none⟩]
  let (r, paths) ← Tool.options 1 switches ({} : Directories.Removing) fun r o =>
    return match o.key with
      | "p" => { r with parents := true }
      | "v" => { r with verbose := true }
      | "ignore-fail-on-non-empty" => { r with tolerant := true }
      | _ => r
  if paths = [] then Tool.misuse 1 "missing operand".toList
  return if ← Tool.forEach paths (Directories.remove r) then 0 else 1

end LineShell.Unix
