import LineShell.Unix.FileSystem

/-! Files to be laid out below a directory, and the names of its files below the root. -/

namespace LineShell.Unix

/-- A file to be made under a path. -/
inductive Entry
  /-- A directory with those above it. -/
  | directory (path : Text)
  /-- A file, in place of what a file of that name holds. -/
  | file (path contents : Text) (mode : Nat)
  | link (path target : Text)
  deriving DecidableEq, Repr

namespace FileSystem

/-- Makes the directories along names that are not there yet. -/
def mkdirAll (fs : FileSystem) (dir : Inode) : List Octets → Except Reason FileSystem
  | [] => .ok fs
  | name :: rest => do
    let fs := (fs.mkdir dir name 0o755).toOption.getD fs
    fs.mkdirAll (← fs.directory dir name) rest

/-- Makes the file of an entry. -/
def lay (dir : Inode) (fs : FileSystem) : Entry → Except Reason FileSystem
  | .directory path => fs.mkdirAll (origin dir (.ofText path)) (names (.ofText path))
  | .file path contents mode => do
    let (fs, i) ← fs.openFile { writes := true, creates := true, truncates := true } 0o644 dir
      (.ofText path)
    return (fs.setContents i fun _ => .ofText contents).modify i fun f => { f with mode }
  | .link path target => fs.symlink dir (.ofText path) (.ofText target)

/-- Makes the files of entries in turn; an entry that cannot be made is left out. -/
def layAll (fs : FileSystem) (dir : Inode) (entries : List Entry) : FileSystem :=
  entries.foldl (fun fs entry => (fs.lay dir entry).toOption.getD fs) fs

end FileSystem

end LineShell.Unix
