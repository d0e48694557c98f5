import LineShell.Unix.Tools.Listing.Palette
import LineShell.Unix.Tools.Listing.Settings
import LineShell.Unix.VersionOrder

/-! The files of a listing: what is found out about them, and in which order they come. -/

namespace LineShell.Unix

open Octets

namespace Listing

/-- A file to be listed. -/
structure Item where
  name : Octets
  inode : Inode
  kind : Kind
  /-- What was found out about it, if that was asked for and was possible. -/
  facts : Option Facts := none
  /-- What a link says, and what it leads to. -/
  target : Option Octets := none
  leads : Option Facts := none
  /-- Whether the kind of what a link leads to counts. -/
  tracked : Bool := false
  /-- The directory is to be listed with its contents. -/
  opened : Bool := false

/-- The kind of a file as the directory tells that it is in. -/
def kindOf (fs : FileSystem) (i : Inode) : Kind :=
  match fs.facts i with
  | .ok f => f.kind
  | .error _ => .regular

namespace Settings

/-- The names of colours that depend on the modes of directories, and on those of files. -/
def directoryColours : List String := ["ow", "st", "tw"]

def fileColours : List String := ["ex", "su", "sg"]

/-- Whether more than names and kinds is shown of files. -/
def needsFacts (s : Settings) : Bool :=
  s.order = some .time || s.order = some .size || s.format = .long || s.context || s.blocks

/-- Whether kinds of files are shown. -/
def needsKinds (s : Settings) : Bool :=
  !s.needsFacts && (s.recursive || s.coloured || s.directoriesFirst || s.marks ≠ .none)

/-- Whether it is shown where links lead. -/
def needsTargets (s : Settings) (p : Palette) : Bool :=
  s.directoriesFirst || s.coloured &&
    (p.isColoured "or" || p.isColoured "ex" && p.followsLinks ||
      p.isColoured "mi" && s.format = .long)

/-- Whether something has to be found out about a file of a kind. -/
def inspects (s : Settings) (p : Palette) (operand : Bool) (kind : Kind) : Bool :=
  operand || s.needsFacts ||
    kind = .directory && s.coloured && directoryColours.any p.isColoured ||
    kind = .link && (s.inodes || s.needsKinds) &&
      (s.following = some .always || p.followsLinks || s.needsTargets p) ||
    kind = .regular && s.needsKinds &&
      (s.marks = .classify || s.coloured && fileColours.any p.isColoured)

/-- Finds out about a file. A link is followed if the settings say so. -/
def facts (s : Settings) (operand : Bool) (path : Octets) : Tool (Except Reason Facts) := do
  let itself := Tool.ask (·.stat path false)
  match s.following.getD .never with
  | .never => itself
  | .always => Tool.ask (·.stat path)
  | .operands => if operand then Tool.ask (·.stat path) else itself
  | .directoryOperands =>
    if !operand then itself
    else
      match ← Tool.ask (·.stat path) with
      | .ok f => if f.kind = .directory then return .ok f else itself
      | .error .noEntry | .error .tooManyLinks => itself
      | .error e => return .error e

/-- Looks a file up under a path. -/
def look (s : Settings) (p : Palette) (operand : Bool) (path name : Octets)
    (entry : Option Inode) : Tool (Except Reason Item) := do
  let fs ← Tool.files
  let kind := (entry.map (kindOf fs)).getD .regular
  let plain : Item := { name, inode := entry.getD 0, kind }
  if !s.inspects p operand kind then return .ok plain
  match ← s.facts operand path with
  | .error e => return .error e
  | .ok f =>
    let inode := match f.identity with
      | .file i => i
      | _ => 0
    let item : Item := { plain with
      inode, kind := f.kind, facts := some f
      opened := operand && !s.directories && f.kind = .directory }
    if f.kind = .link && (s.format = .long || s.needsTargets p) then
      let target := match fs.node? inode with
        | some (.link text) => some text
        | _ => none
      let leads ← if s.marks = .types || s.marks = .classify || s.needsTargets p then
          pure (← Tool.ask (·.stat path)).toOption
        else pure none
      let tracked := leads.any fun l => !operand || s.format = .long || l.kind ≠ .directory
      return .ok { item with target, leads, tracked }
    else return .ok item

/-- Files as operands, or those in a directory, without operands that cannot be looked up. The
number tells how bad it was if something went wrong. -/
def gather (s : Settings) (p : Palette) (operand : Bool)
    (files : List (Octets × Octets × Option Inode)) : Tool (List Item × Nat) := do
  let fs ← Tool.files
  let step (state : List Item × Nat) (file : Octets × Octets × Option Inode) :
      Tool (List Item × Nat) := do
    let (items, code) := state
    let (path, name, entry) := file
    match ← s.look p operand path name entry with
    | .ok item => return (item :: items, code)
    | .error e =>
      Tool.complain ("cannot access ".toList ++ quoteName path) e
      if operand then return (items, 2)
      else
        let item : Item := {
          name, inode := entry.getD 0, kind := (entry.map (kindOf fs)).getD .regular }
        return (item :: items, max code 1)
  let (items, code) ← files.foldlM step ([], 0)
  return (items.reverse, code)

/-- The time of a file that counts. -/
def time (s : Settings) (f : Facts) : Int :=
  match s.clock with
  | .modified => f.modified
  | .changed => f.changed
  | .accessed => f.accessed
  | .made => f.made

/-- The part of a name behind its last dot, with the dot. -/
def extension (name : Octets) : Octets :=
  if '.' ∈ name then '.' :: (name.reverse.takeWhile (· ≠ '.')).reverse else []

/-- The order of files; names decide between files that are equal otherwise. The width of a name is
that on the screen. -/
def le (s : Settings) (width : Item → Nat) (a b : Item) : Bool :=
  let byName := Octets.le a.name b.name
  let later (x y : Int) : Bool := if x = y then byName else x > y
  let time (i : Item) : Int := i.facts.elim 0 s.time
  let size (i : Item) : Int := i.facts.elim 0 (·.size)
  match s.order with
  | none | some .none | some .name => byName
  | some .size => later (size a) (size b)
  | some .time => later (time a) (time b)
  | some .extension =>
    if extension a.name = extension b.name then byName
    else Octets.le (extension a.name) (extension b.name)
  | some .version =>
    match VersionOrder.compareNames a.name b.name with
    | .lt => true
    | .eq => byName
    | .gt => false
  | some .width => if width a = width b then byName else width a < width b

/-- Whether a file counts as a directory when those come first. -/
def leadsOthers (i : Item) : Bool :=
  i.kind = .directory || i.tracked && i.leads.any (·.kind = .directory)

/-- Files in order. -/
def sort (s : Settings) (width : Item → Nat) (items : List Item) : List Item :=
  if s.order = some .none then items
  else
    let le := s.le width
    let sorted := items.mergeSort fun a b => if s.reverse then le b a else le a b
    if s.directoriesFirst then sorted.filter leadsOthers ++ sorted.filter (!leadsOthers ·)
    else sorted

/-- Whether a name in a directory is listed. -/
def lists (s : Settings) (name : Octets) : Bool :=
  let matched (patterns : List Octets) : Bool := patterns.any (Wildcard.isMatch · name)
  (match s.hidden with
    | .all => true
    | .almostAll => name ≠ ['.'] && name ≠ ['.', '.']
    | .none => name.head? != some '.' && !matched s.unlisted) && !matched s.ignored

end Settings

end Listing

end LineShell.Unix
