import LineShell.Store
import LineShell.Template

/-! Expansion of a line: each reference gives way to the value of its name, or to nothing if the
name is unbound. Values are not expanded again. A line without references is kept as it is; any
other must stay within `maxLine` bytes at every step. -/

namespace LineShell

/-- Appends to a line under construction, unless it would become too long. -/
def push? (buffer text : Text) : Option Text :=
  if buffer.size + text.size ≤ maxLine then some (buffer ++ text) else none

theorem push?_eq_some_iff {buffer text result : Text} :
    push? buffer text = some result ↔
      result = buffer ++ text ∧ buffer.size + text.size ≤ maxLine := by
  unfold push?
  split <;> simp_all [eq_comm]

/-- Appends pieces to a line under construction, with the log of unbound names. The result is
`none` if the line becomes too long, and nothing is logged from there on. -/
def fill (store : Store) (buffer : Text) : List Piece → Option Text × List Event
  | [] => (some buffer, [])
  | .literal text :: rest =>
    match push? buffer text with
    | none => (none, [])
    | some buffer => fill store buffer rest
  | .reference name :: rest =>
    match store.get? name with
    | none =>
      match fill store buffer rest with
      | (result, events) => (result, .unsetReference name :: events)
    | some value =>
      match push? buffer value with
      | none => (none, [])
      | some buffer => fill store buffer rest

/-- Expansion that looks for references in every line, with the log of it. -/
def scan (store : Store) (line : Text) : Option Text × List Event :=
  match fill store [] line.pieces with
  | (none, events) => (none, events)
  | (some result, events) => (some result, events ++ [.expanded line result])

/-- Expands a line, with the log of it. The result is `none` if the line becomes too long. -/
def expand (store : Store) (line : Text) : Option Text × List Event :=
  if '$' ∈ line then scan store line else (some line, [])

end LineShell
