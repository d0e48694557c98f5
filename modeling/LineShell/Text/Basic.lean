/-! Unicode text as a list of characters, measured in the bytes of its UTF-8 form. Sizes add up
along concatenation. -/

namespace LineShell

/-- Text is a list of Unicode scalar values. -/
abbrev Text := List Char

namespace Text

/-- The number of bytes in the UTF-8 form of a text. -/
def size : Text → Nat
  | [] => 0
  | c :: cs => c.utf8Size + size cs

@[simp]
theorem size_nil : size [] = 0 := rfl

@[simp]
theorem size_cons (c : Char) (cs : Text) : size (c :: cs) = c.utf8Size + size cs := rfl

@[simp]
theorem size_append (s t : Text) : size (s ++ t) = size s + size t := by
  induction s with
  | nil => simp
  | cons c s ih => simp [ih, Nat.add_assoc]

/-- A natural number in decimal digits. -/
def ofNat (n : Nat) : Text := Nat.toDigits 10 n

/-- The number that decimal digits stand for. -/
def decimal (digits : Text) : Nat := digits.foldl (fun n d => n * 10 + (d.toNat - 48)) 0

end Text

end LineShell
