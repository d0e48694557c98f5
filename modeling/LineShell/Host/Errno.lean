import LineShell.Text.Basic

/-! Why an operating system refuses a request. Programs report a reason in the words of the system and
with its number. -/

namespace LineShell

/-- Why a request to the operating system failed: a number, and the words that go with it. -/
structure Errno where
  number : Nat
  text : Text
  deriving DecidableEq, Repr

namespace Errno

/-- Whether nothing has the name that was asked for. The number decides. -/
def isNoEntry (e : Errno) : Bool := e.number == 2

/-- The words of a reason with its number behind them. -/
def message (e : Errno) : Text :=
  e.text ++ " (os error ".toList ++ Text.ofNat e.number ++ [')']

end Errno

end LineShell
