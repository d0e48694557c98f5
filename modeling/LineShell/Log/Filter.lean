import LineShell.Log
import LineShell.Text.Cut

/-! Log filters. A filter is a list of directives, each a target with the least severe level to be
shown of it; the directive with the longest target that begins the target of a record decides. Filters
by the text of a record are not known here, and a word that is no directive is left out in silence. -/

namespace LineShell

namespace Level

/-- The levels that a filter can name, in upper case, by the rank up to which they show. -/
def ranks : List (Text × Nat) :=
  ("OFF".toList, 0) :: [error, warn, info, debug, trace].map fun l => (l.name, l.rank)

/-- The rank that a word names, in any case. -/
def rankOf? (word : Text) : Option Nat := ranks.lookup (word.map Char.toUpper)

end Level

/-- Shows records up to a rank whose target begins with the given one. -/
structure Directive where
  target : Text
  rank : Nat
  deriving DecidableEq, Repr

/-- Directives, those that decide first in front. -/
abbrev LogFilter := List Directive

namespace LogFilter

/-- White space around a directive has no meaning. -/
def trim (t : Text) : Text :=
  ((t.dropWhile Char.isWhitespace).reverse.dropWhile Char.isWhitespace).reverse

/-- Reads one directive: a level for all targets, a target with a level, or a target alone, of
which everything is shown. A word that is none of these is left out. -/
def directive? (word : Text) : Option Directive :=
  match Text.cut '=' (trim word) with
  | [[]] => none
  | [one] => some (((Level.rankOf? one).map (⟨[], ·⟩)).getD ⟨one, Level.trace.rank⟩)
  | [target, level] =>
    if trim level = [] then some ⟨target, Level.trace.rank⟩
    else (Level.rankOf? (trim level)).map (⟨target, ·⟩)
  | _ => none

/-- Adds a directive, in place of an earlier one for the same target. -/
def insert (filter : LogFilter) (d : Directive) : LogFilter :=
  d :: filter.filter (·.target ≠ d.target)

/-- Reads a filter: directives with commas between them. Without any, errors alone are shown. -/
def ofText (t : Text) : LogFilter :=
  match ((Text.cut ',' t).filterMap directive?).foldl insert [] with
  | [] => [⟨[], Level.error.rank⟩]
  | ds => ds.mergeSort fun a b => b.target.size ≤ a.target.size

/-- Whether a filter shows a record. -/
def shows (filter : LogFilter) (r : Record) : Bool :=
  match filter.find? fun d => d.target.isPrefixOf r.target with
  | some d => r.level.rank ≤ d.rank
  | none => false

end LogFilter

/-- The line of a record on the error stream, with a time stamp. -/
def Record.line (stamp : Text) (r : Record) : Text :=
  '[' :: stamp ++ ' ' :: r.level.name.rightpad 5 ' ' ++ ' ' :: r.target ++ "] ".toList ++
    r.message ++ ['\n']

end LineShell
