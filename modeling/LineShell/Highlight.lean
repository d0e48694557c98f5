import LineShell.Text.Basic

/-! Colour of error reports. -/

namespace LineShell

/-- Whether error reports are coloured. -/
structure Highlighter where
  coloured : Bool
  deriving DecidableEq, Repr

namespace Highlighter

/-- A highlighter that leaves every text as it is. -/
def plain : Highlighter := ⟨false⟩

/-- A report in bold red if reports are coloured. -/
def report (h : Highlighter) (t : Text) : Text :=
  if h.coloured then "\x1b[31m\x1b[1m".toList ++ t ++ "\x1b[0m".toList else t

end Highlighter

end LineShell
