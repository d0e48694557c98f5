import LineShell.Text.Basic

/-! A line as literal text with references in it. A reference is a `$` with the longest run of name
characters behind it, which may be empty; there is no way to write a literal `$`. Literal text and
references alternate. -/

namespace LineShell

/-- A stretch of a line. -/
inductive Piece
  | literal (text : Text)
  | reference (name : Text)
  deriving DecidableEq, Repr

namespace Text

/-- Names are made of ASCII letters, ASCII digits and underscores. -/
def isNameChar (c : Char) : Bool := c.isAlphanum || c == '_'

/-- Literal text ends at a `$`. -/
def notDollar (c : Char) : Bool := c != '$'

/-- The pieces of a line: literal text, then references with literal text behind each. -/
def pieces (line : Text) : List Piece :=
  match _h : line.dropWhile notDollar with
  | [] => [.literal line]
  | _ :: after =>
    .literal (line.takeWhile notDollar) :: .reference (after.takeWhile isNameChar) ::
      pieces (after.dropWhile isNameChar)
termination_by line.length
decreasing_by
  have hline := (List.dropWhile_sublist (l := line) notDollar).length_le
  have hafter := (List.dropWhile_sublist (l := after) isNameChar).length_le
  simp only [_h, List.length_cons] at hline
  omega

theorem dropWhile_notDollar_head {line rest : Text} {c : Char}
    (h : line.dropWhile notDollar = c :: rest) : c = '$' := by
  have hc := List.head?_dropWhile_not notDollar line
  simp only [h, List.head?_cons] at hc
  simpa [notDollar] using hc

end Text

end LineShell
