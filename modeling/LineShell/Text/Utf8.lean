import LineShell.Text.Basic

/-! UTF-8. Encoding takes `Text.size` bytes. Decoding accepts every byte sequence: a character that
breaks off, at the longest part that could still have become one, and a byte that starts none are
each replaced by U+FFFD. -/

namespace LineShell

/-- Bytes of a file or stream. -/
abbrev Bytes := List UInt8

namespace Text

/-- The UTF-8 form of a text. -/
def encode (t : Text) : Bytes := t.flatMap String.utf8EncodeChar

theorem length_encode (t : Text) : t.encode.length = size t := by
  induction t with
  | nil => rfl
  | cons c t ih =>
    simp only [encode, List.flatMap_cons, List.length_append, String.length_utf8EncodeChar,
      size_cons] at ih ⊢
    omega

/-- The replacement character. -/
def replacement : Char := '\uFFFD'

/-- The bits of a character that its first byte holds, and the range that each further byte has to
lie in. The ranges after `E0`, `ED`, `F0` and `F4` leave out overlong forms, surrogates and numbers
above `10FFFF`. -/
def leading (b : UInt8) : Option (Nat × List (UInt8 × UInt8)) :=
  let tail : UInt8 × UInt8 := (0x80, 0xBF)
  if b < 0x80 then some (b.toNat, [])
  else if b < 0xC2 then none
  else if b < 0xE0 then some (b.toNat % 32, [tail])
  else if b = 0xE0 then some (0, [(0xA0, 0xBF), tail])
  else if b = 0xED then some (0xD, [(0x80, 0x9F), tail])
  else if b < 0xF0 then some (b.toNat % 16, [tail, tail])
  else if b = 0xF0 then some (0, [(0x90, 0xBF), tail, tail])
  else if b < 0xF4 then some (b.toNat % 8, [tail, tail, tail])
  else if b = 0xF4 then some (4, [(0x80, 0x8F), tail, tail])
  else none

/-- Reads the further bytes of a character onto its leading bits. The first component is `none`
if one is missing; the second is what follows the bytes that were taken. -/
def trailing (bits : Nat) : List (UInt8 × UInt8) → Bytes → Option Nat × Bytes
  | [], bs => (some bits, bs)
  | _ :: _, [] => (none, [])
  | (low, high) :: ranges, b :: bs =>
    if low ≤ b ∧ b ≤ high then trailing (bits * 64 + b.toNat % 64) ranges bs
    else (none, b :: bs)

theorem length_trailing_le (bits : Nat) (ranges : List (UInt8 × UInt8)) (bs : Bytes) :
    (trailing bits ranges bs).2.length ≤ bs.length := by
  fun_induction trailing bits ranges bs with
  | case1 => simp
  | case2 => simp
  | case3 bits low high ranges b bs h ih => simp only [List.length_cons]; omega
  | case4 => simp

/-- The text that bytes stand for, whether or not they are well formed. -/
def decode : Bytes → Text
  | [] => []
  | b :: bs =>
    match leading b with
    | none => replacement :: decode bs
    | some (bits, ranges) =>
      ((trailing bits ranges bs).1.map Char.ofNat).getD replacement ::
        decode (trailing bits ranges bs).2
termination_by bs => bs.length
decreasing_by
  · simp
  · have := length_trailing_le bits ranges bs
    simp only [List.length_cons]
    omega

/-- Whether bytes are the UTF-8 form of a text. -/
def isUtf8 (bs : Bytes) : Bool := encode (decode bs) == bs

end Text

end LineShell
