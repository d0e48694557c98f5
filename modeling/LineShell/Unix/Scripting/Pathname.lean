import LineShell.Unix.FileSystem
import LineShell.Unix.Pattern

/-! The paths that match a pattern. A pattern is parted at its slashes; parts without a special byte
are names as they are. Names that start with a dot only match where the pattern has that dot. -/

namespace LineShell.Unix.Pattern

/-- A pattern with the backslashes taken off. -/
def bareText : Octets → Octets
  | '\\' :: c :: rest => c :: bareText rest
  | c :: rest => c :: bareText rest
  | [] => []

/-- A pattern parted at its first special part. -/
structure Parted where
  before : Octets
  special : Octets
  /-- What follows the slash behind the special part. -/
  rest : Option Octets

/-- Parts a pattern; what was passed over is kept, the last byte first. There is no special part if
the answer is missing. -/
def part (before now : Octets) (special : Bool) : Octets → Option Parted
  | [] => if special then some ⟨before.reverse, now.reverse, none⟩ else none
  | '\\' :: '/' :: rest | '/' :: rest =>
    if special then some ⟨before.reverse, now.reverse, some rest⟩
    else part ('/' :: now ++ before) [] false rest
  | '\\' :: c :: rest => part before (c :: '\\' :: now) special rest
  | c :: rest =>
    let opens := c == '[' && closes (if rest.head? = some '!' then rest.drop 1 else rest)
    part before (c :: now) (special || c == '*' || c == '?' || opens) rest

/-- The paths that match what is left of a pattern behind a path. -/
def pathsBehind (fs : FileSystem) (dir : Inode) : Nat → Octets → Octets → List Octets
  | 0, _, _ => []
  | fuel + 1, front, pattern =>
    match part [] [] false pattern with
    | none =>
      let path := front ++ bareText pattern
      if front ≠ [] ∧ (fs.resolve dir path false).isOk then [path] else []
    | some p =>
      let front := front ++ bareText p.before
      match fs.directory dir (if front = [] then ['.'] else front) with
      | .error _ => []
      | .ok i =>
        let hidden := ['.'] = (bareText p.special).take 1
        let all :=
          if fs.allows i .read then ['.'] :: ['.', '.'] :: (fs.entriesOf i).map (·.1) else []
        let found := all.filter fun name =>
          (hidden || name.head? != some '.') && isMatch p.special name
        match p.rest with
        | none => found.map (front ++ ·)
        | some rest => found.flatMap fun name =>
          pathsBehind fs dir fuel (front ++ name ++ ['/']) rest

/-- The paths that match a pattern, in order. -/
def paths (fs : FileSystem) (dir : Inode) (pattern : Octets) : List Octets :=
  Octets.sort (pathsBehind fs dir (pattern.length + 1) [] pattern)

end LineShell.Unix.Pattern
