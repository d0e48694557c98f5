/-! The bounds that a line, its words and the variables are held to. Lengths are in bytes of
UTF-8. -/

namespace LineShell

/-- The longest line, before and after expansion. -/
def maxLine : Nat := 1023

/-- The most words that a line may hold. -/
def maxWords : Nat := 128

/-- The longest name of a variable. -/
def maxName : Nat := 255

/-- The longest value of a variable. -/
def maxValue : Nat := 255

end LineShell
