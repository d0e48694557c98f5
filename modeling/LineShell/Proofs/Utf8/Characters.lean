import LineShell.Text.Utf8
import Mathlib.Data.List.Forall2

/-! # Characters in UTF-8

The table of leading bytes asks for exactly those further bytes with which some character goes on.
So a leading byte with bytes in all its ranges is the encoding of a character, and each encoding is
of that kind. -/

namespace LineShell.Text

/-- A byte lies in a range. -/
def InRange (range : UInt8 × UInt8) (b : UInt8) : Prop := range.1 ≤ b ∧ b ≤ range.2

/-- The number that leading bits and further bytes stand for. -/
def number (bits : Nat) (bs : Bytes) : Nat := bs.foldl (fun n b => n * 64 + b.toNat % 64) bits

theorem number_nil (bits : Nat) : number bits [] = bits := rfl

theorem number_cons (bits : Nat) (b : UInt8) (bs : Bytes) :
    number bits (b :: bs) = number (bits * 64 + b.toNat % 64) bs := rfl

/-! ## The table of leading bytes -/

/-- All continuation bytes. -/
def continuation : UInt8 × UInt8 := (0x80, 0xBF)

/-- The range of the second of three bytes. Overlong forms and surrogates are left out. -/
def secondOfThree (b : UInt8) : UInt8 × UInt8 :=
  (if b = 0xE0 then 0xA0 else 0x80, if b = 0xED then 0x9F else 0xBF)

/-- The range of the second of four bytes. Overlong forms and numbers above `10FFFF` are left out. -/
def secondOfFour (b : UInt8) : UInt8 × UInt8 :=
  (if b = 0xF0 then 0x90 else 0x80, if b = 0xF4 then 0x8F else 0xBF)

theorem inRange_continuation {b : UInt8} :
    InRange continuation b ↔ 0x80 ≤ b.toNat ∧ b.toNat < 0xC0 := by
  simp only [InRange, continuation, UInt8.le_iff_toNat_le, UInt8.reduceToNat]
  omega

theorem inRange_secondOfThree {b c : UInt8} :
    InRange (secondOfThree b) c ↔
      (0x80 ≤ c.toNat ∧ c.toNat < 0xC0) ∧ (b.toNat = 0xE0 → 0xA0 ≤ c.toNat) ∧
        (b.toNat = 0xED → c.toNat < 0xA0) := by
  simp only [InRange, secondOfThree, UInt8.le_iff_toNat_le, ← UInt8.toNat_inj,
    apply_ite UInt8.toNat, UInt8.reduceToNat]
  split_ifs <;> omega

theorem inRange_secondOfFour {b c : UInt8} :
    InRange (secondOfFour b) c ↔
      (0x80 ≤ c.toNat ∧ c.toNat < 0xC0) ∧ (b.toNat = 0xF0 → 0x90 ≤ c.toNat) ∧
        (b.toNat = 0xF4 → c.toNat < 0x90) := by
  simp only [InRange, secondOfFour, UInt8.le_iff_toNat_le, ← UInt8.toNat_inj,
    apply_ite UInt8.toNat, UInt8.reduceToNat]
  split_ifs <;> omega

section
variable {b : UInt8} {bits : Nat}

theorem leading_one (h : b.toNat < 0x80) : leading b = some (b.toNat, []) :=
  if_pos (UInt8.lt_iff_toNat_lt.mpr h)

theorem leading_two (hb : b.toNat = 0xC0 + bits) (hlow : 2 ≤ bits) (hhigh : bits < 32) :
    leading b = some (bits, [continuation]) := by
  have hmod : b.toNat % 32 = bits := by omega
  unfold leading continuation
  simp only [UInt8.lt_iff_toNat_lt, UInt8.reduceToNat]
  rw [if_neg (by omega), if_neg (by omega), if_pos (by omega), hmod]

theorem leading_three (hb : b.toNat = 0xE0 + bits) (hhigh : bits < 16) :
    leading b = some (bits, [secondOfThree b, continuation]) := by
  unfold leading secondOfThree continuation
  simp only [UInt8.lt_iff_toNat_lt, ← UInt8.toNat_inj, UInt8.reduceToNat]
  rw [if_neg (by omega), if_neg (by omega), if_neg (by omega)]
  by_cases h0 : bits = 0
  · rw [if_pos (by omega), if_pos (by omega), if_neg (by omega), h0]
  by_cases hD : bits = 0xD
  · rw [if_neg (by omega), if_pos (by omega), if_neg (by omega), if_pos (by omega), hD]
  have hmod : b.toNat % 16 = bits := by omega
  rw [if_neg (by omega), if_neg (by omega), if_pos (by omega), if_neg (by omega),
    if_neg (by omega), hmod]

theorem leading_four (hb : b.toNat = 0xF0 + bits) (hhigh : bits < 5) :
    leading b = some (bits, [secondOfFour b, continuation, continuation]) := by
  unfold leading secondOfFour continuation
  simp only [UInt8.lt_iff_toNat_lt, ← UInt8.toNat_inj, UInt8.reduceToNat]
  rw [if_neg (by omega), if_neg (by omega), if_neg (by omega), if_neg (by omega),
    if_neg (by omega), if_neg (by omega)]
  by_cases h0 : bits = 0
  · rw [if_pos (by omega), if_pos (by omega), if_neg (by omega), h0]
  by_cases h4 : bits = 4
  · rw [if_neg (by omega), if_neg (by omega), if_pos (by omega), if_neg (by omega),
      if_pos (by omega), h4]
  have hmod : b.toNat % 8 = bits := by omega
  rw [if_neg (by omega), if_pos (by omega), if_neg (by omega), if_neg (by omega), hmod]

/-- The rows of the table, by the number of further bytes. -/
theorem leading_cases {ranges : List (UInt8 × UInt8)} (h : leading b = some (bits, ranges)) :
    (b.toNat = bits ∧ bits < 0x80) ∧ ranges = [] ∨
    (b.toNat = 0xC0 + bits ∧ 2 ≤ bits ∧ bits < 32) ∧ ranges = [continuation] ∨
    (b.toNat = 0xE0 + bits ∧ bits < 16) ∧ ranges = [secondOfThree b, continuation] ∨
    (b.toNat = 0xF0 + bits ∧ bits < 5) ∧ ranges = [secondOfFour b, continuation, continuation] := by
  unfold leading at h
  unfold secondOfThree secondOfFour continuation
  simp only [UInt8.lt_iff_toNat_lt, ← UInt8.toNat_inj, UInt8.reduceToNat] at h ⊢
  split_ifs at h with h80 hC2 hE0 heqE0 heqED hF0 heqF0 hF4 heqF4 <;> cases h
  · exact .inl ⟨by omega, rfl⟩
  · exact .inr (.inl ⟨by omega, rfl⟩)
  · refine .inr (.inr (.inl ⟨by omega, ?_⟩))
    rw [if_pos heqE0, if_neg (by omega)]
  · refine .inr (.inr (.inl ⟨by omega, ?_⟩))
    rw [if_neg heqE0, if_pos heqED]
  · refine .inr (.inr (.inl ⟨by omega, ?_⟩))
    rw [if_neg heqE0, if_neg heqED]
  · refine .inr (.inr (.inr ⟨by omega, ?_⟩))
    rw [if_pos heqF0, if_neg (by omega)]
  · refine .inr (.inr (.inr ⟨by omega, ?_⟩))
    rw [if_neg heqF0, if_neg (by omega)]
  · refine .inr (.inr (.inr ⟨by omega, ?_⟩))
    rw [if_neg heqF0, if_pos heqF4]

end

/-- Only continuation bytes are asked for, and no range is empty. -/
theorem bounds_of_leading {b : UInt8} {bits : Nat} {ranges : List (UInt8 × UInt8)}
    (h : leading b = some (bits, ranges)) :
    ∀ range ∈ ranges, 0x80 ≤ range.1 ∧ range.1 ≤ range.2 := by
  unfold leading at h
  split_ifs at h <;> cases h <;> simp

/-! ## Encodings -/

theorem exists_toNat_eq {n : Nat} (h : n < 0xD800 ∨ 0xDFFF < n ∧ n < 0x110000) :
    ∃ c : Char, c.toNat = n := by
  refine ⟨Char.ofNat n, ?_⟩
  rw [Char.ofNat, dif_pos h]
  exact UInt32.toNat_ofNatLT ..

section
variable {c : Char}

theorem utf8EncodeChar_one (h : c.toNat < 0x80) :
    ∃ b, String.utf8EncodeChar c = [b] ∧ b.toNat = c.toNat := by
  have hc : c.val.toNat = c.toNat := rfl
  rw [String.utf8EncodeChar, hc, if_pos (by omega)]
  refine ⟨_, rfl, ?_⟩
  rw [UInt8.toNat_ofNat']
  omega

theorem utf8EncodeChar_two (hlow : 0x80 ≤ c.toNat) (hhigh : c.toNat < 0x800) :
    ∃ b₁ b₂, String.utf8EncodeChar c = [b₁, b₂] ∧ b₁.toNat = 0xC0 + c.toNat / 64 ∧
      b₂.toNat = 0x80 + c.toNat % 64 := by
  have hc : c.val.toNat = c.toNat := rfl
  rw [String.utf8EncodeChar, hc, if_neg (by omega), if_pos (by omega)]
  refine ⟨_, _, rfl, ?_⟩
  rw [UInt8.toNat_ofNat', UInt8.toNat_ofNat']
  omega

theorem utf8EncodeChar_three (hlow : 0x800 ≤ c.toNat) (hhigh : c.toNat < 0x10000) :
    ∃ b₁ b₂ b₃, String.utf8EncodeChar c = [b₁, b₂, b₃] ∧ b₁.toNat = 0xE0 + c.toNat / 64 / 64 ∧
      b₂.toNat = 0x80 + c.toNat / 64 % 64 ∧ b₃.toNat = 0x80 + c.toNat % 64 := by
  have hc : c.val.toNat = c.toNat := rfl
  rw [String.utf8EncodeChar, hc, if_neg (by omega), if_neg (by omega), if_pos (by omega)]
  refine ⟨_, _, _, rfl, ?_⟩
  rw [UInt8.toNat_ofNat', UInt8.toNat_ofNat', UInt8.toNat_ofNat']
  omega

theorem utf8EncodeChar_four (hlow : 0x10000 ≤ c.toNat) :
    ∃ b₁ b₂ b₃ b₄, String.utf8EncodeChar c = [b₁, b₂, b₃, b₄] ∧
      b₁.toNat = 0xF0 + c.toNat / 64 / 64 / 64 ∧ b₂.toNat = 0x80 + c.toNat / 64 / 64 % 64 ∧
      b₃.toNat = 0x80 + c.toNat / 64 % 64 ∧ b₄.toNat = 0x80 + c.toNat % 64 := by
  have hc : c.val.toNat = c.toNat := rfl
  have hvalid : c.toNat < 0xD800 ∨ 0xDFFF < c.toNat ∧ c.toNat < 0x110000 := c.valid
  rw [String.utf8EncodeChar, hc, if_neg (by omega), if_neg (by omega), if_neg (by omega)]
  refine ⟨_, _, _, _, rfl, ?_⟩
  rw [UInt8.toNat_ofNat', UInt8.toNat_ofNat', UInt8.toNat_ofNat', UInt8.toNat_ofNat']
  omega

end

variable {b : UInt8} {bits : Nat} {ranges : List (UInt8 × UInt8)} {bs : Bytes}

/-- A leading byte with bytes in its ranges is the encoding of a character. -/
theorem exists_utf8EncodeChar (h : leading b = some (bits, ranges))
    (hbs : List.Forall₂ InRange ranges bs) :
    ∃ c : Char, c.toNat = number bits bs ∧ String.utf8EncodeChar c = b :: bs := by
  obtain ⟨hb, rfl⟩ | ⟨hb, rfl⟩ | ⟨hb, rfl⟩ | ⟨hb, rfl⟩ := leading_cases h
  · cases hbs
    rw [number_nil]
    obtain ⟨c, rfl⟩ := exists_toNat_eq (n := bits) (by omega)
    obtain ⟨d, hencode, hd⟩ := utf8EncodeChar_one (c := c) (by omega)
    refine ⟨c, rfl, ?_⟩
    rw [hencode, UInt8.toNat_inj.mp (hd.trans hb.1.symm)]
  · obtain _ | ⟨h₂, hbs⟩ := hbs
    cases hbs
    rw [inRange_continuation] at h₂
    rw [number_cons, number_nil]
    obtain ⟨c, hc⟩ := exists_toNat_eq (n := bits * 64 + _ % 64) (by omega)
    obtain ⟨d₁, d₂, hencode, hd₁, hd₂⟩ := utf8EncodeChar_two (c := c) (by omega) (by omega)
    refine ⟨c, hc, ?_⟩
    rw [hencode]
    congr <;> exact UInt8.toNat_inj.mp (by omega)
  · obtain _ | ⟨h₂, hbs⟩ := hbs
    obtain _ | ⟨h₃, hbs⟩ := hbs
    cases hbs
    rw [inRange_secondOfThree] at h₂
    rw [inRange_continuation] at h₃
    rw [number_cons, number_cons, number_nil]
    generalize hn : (bits * 64 + _ % 64) * 64 + _ % 64 = n
    obtain ⟨c, rfl⟩ := exists_toNat_eq (n := n) (by omega)
    obtain ⟨d₁, d₂, d₃, hencode, hd₁, hd₂, hd₃⟩ :=
      utf8EncodeChar_three (c := c) (by omega) (by omega)
    refine ⟨c, rfl, ?_⟩
    rw [hencode]
    congr <;> exact UInt8.toNat_inj.mp (by omega)
  · obtain _ | ⟨h₂, hbs⟩ := hbs
    obtain _ | ⟨h₃, hbs⟩ := hbs
    obtain _ | ⟨h₄, hbs⟩ := hbs
    cases hbs
    rw [inRange_secondOfFour] at h₂
    rw [inRange_continuation] at h₃ h₄
    rw [number_cons, number_cons, number_cons, number_nil]
    generalize hn : ((bits * 64 + _ % 64) * 64 + _ % 64) * 64 + _ % 64 = n
    obtain ⟨c, rfl⟩ := exists_toNat_eq (n := n) (by omega)
    obtain ⟨d₁, d₂, d₃, d₄, hencode, hd₁, hd₂, hd₃, hd₄⟩ :=
      utf8EncodeChar_four (c := c) (by omega)
    refine ⟨c, rfl, ?_⟩
    rw [hencode]
    congr <;> exact UInt8.toNat_inj.mp (by omega)

/-- Every encoding of a character is a leading byte with bytes in its ranges. -/
theorem leading_of_utf8EncodeChar {c : Char} (h : String.utf8EncodeChar c = b :: bs) :
    ∃ bits ranges, leading b = some (bits, ranges) ∧ List.Forall₂ InRange ranges bs ∧
      number bits bs = c.toNat := by
  have hvalid : c.toNat < 0xD800 ∨ 0xDFFF < c.toNat ∧ c.toNat < 0x110000 := c.valid
  by_cases h80 : c.toNat < 0x80
  · obtain ⟨d, hencode, hd⟩ := utf8EncodeChar_one h80
    cases hencode.symm.trans h
    exact ⟨_, _, leading_one (by omega), .nil, hd⟩
  by_cases h800 : c.toNat < 0x800
  · obtain ⟨d₁, d₂, hencode, hd₁, hd₂⟩ := utf8EncodeChar_two (Nat.le_of_not_lt h80) h800
    cases hencode.symm.trans h
    refine ⟨_, _, leading_two hd₁ (by omega) (by omega), .cons ?_ .nil, ?_⟩
    · rw [inRange_continuation]
      omega
    · rw [number_cons, number_nil]
      omega
  by_cases h10000 : c.toNat < 0x10000
  · obtain ⟨d₁, d₂, d₃, hencode, hd₁, hd₂, hd₃⟩ :=
      utf8EncodeChar_three (Nat.le_of_not_lt h800) h10000
    cases hencode.symm.trans h
    refine ⟨_, _, leading_three hd₁ (by omega), .cons ?_ (.cons ?_ .nil), ?_⟩
    · rw [inRange_secondOfThree]
      omega
    · rw [inRange_continuation]
      omega
    · rw [number_cons, number_cons, number_nil]
      omega
  · obtain ⟨d₁, d₂, d₃, d₄, hencode, hd₁, hd₂, hd₃, hd₄⟩ :=
      utf8EncodeChar_four (Nat.le_of_not_lt h10000)
    cases hencode.symm.trans h
    refine ⟨_, _, leading_four hd₁ (by omega), .cons ?_ (.cons ?_ (.cons ?_ .nil)), ?_⟩
    · rw [inRange_secondOfFour]
      omega
    · rw [inRange_continuation]
      omega
    · rw [inRange_continuation]
      omega
    · rw [number_cons, number_cons, number_cons, number_nil]
      omega

theorem inRange_of_utf8EncodeChar (hb : leading b = some (bits, ranges)) {c : Char}
    (h : String.utf8EncodeChar c = b :: bs) : List.Forall₂ InRange ranges bs := by
  obtain ⟨_, _, hlead, hbs, -⟩ := leading_of_utf8EncodeChar h
  rw [hb] at hlead
  cases hlead
  exact hbs

/-! ## Further bytes -/

theorem trailing_of_inRange (bits : Nat) {taken : Bytes} (h : List.Forall₂ InRange ranges taken)
    (rest : Bytes) : trailing bits ranges (taken ++ rest) = (some (number bits taken), rest) := by
  induction h generalizing bits with
  | nil => rw [List.nil_append, trailing, number_nil]
  | @cons range b ranges taken hb h ih =>
      obtain ⟨low, high⟩ := range
      obtain ⟨hlow, hhigh⟩ := hb
      rw [List.cons_append, trailing, if_pos ⟨hlow, hhigh⟩, ih, number_cons]

/-- Reading further bytes stops when there is one for each range, or else in front of the first byte
that is out of range. -/
theorem trailing_cases (bits : Nat) (ranges : List (UInt8 × UInt8)) (bs : Bytes) :
    ∃ taken rest, bs = taken ++ rest ∧
      (List.Forall₂ InRange ranges taken ∧
        trailing bits ranges bs = (some (number bits taken), rest) ∨
      ∃ before range after, ranges = before ++ range :: after ∧
        List.Forall₂ InRange before taken ∧ (∀ b ∈ rest.head?, ¬ InRange range b) ∧
        trailing bits ranges bs = (none, rest)) := by
  fun_induction trailing bits ranges bs with
  | case1 bits bs => exact ⟨[], bs, rfl, .inl ⟨.nil, rfl⟩⟩
  | case2 bits range ranges =>
      exact ⟨[], [], rfl, .inr ⟨[], range, ranges, rfl, .nil, by simp, rfl⟩⟩
  | case3 bits low high ranges b bs hb ih =>
      obtain ⟨taken, rest, rfl,
        ⟨htaken, heq⟩ | ⟨before, range, after, rfl, htaken, hrest, heq⟩⟩ := ih
      · exact ⟨b :: taken, rest, rfl, .inl ⟨.cons hb htaken, heq⟩⟩
      · exact ⟨b :: taken, rest, rfl,
          .inr ⟨(low, high) :: before, range, after, rfl, .cons hb htaken, hrest, heq⟩⟩
  | case4 bits low high ranges b bs hb =>
      refine ⟨[], b :: bs, rfl, .inr ⟨[], (low, high), ranges, rfl, .nil, ?_, rfl⟩⟩
      intro d hd
      obtain rfl : b = d := Option.some.inj hd
      exact hb

/-! ## Decoding of characters -/

@[simp] theorem decode_nil : decode [] = [] := by
  rw [decode]

theorem decode_char_append (c : Char) (rest : Bytes) :
    decode (String.utf8EncodeChar c ++ rest) = c :: decode rest := by
  obtain ⟨b, bs, hencode⟩ := List.exists_cons_of_ne_nil (String.utf8EncodeChar_ne_nil (c := c))
  obtain ⟨bits, ranges, hb, hbs, hnumber⟩ := leading_of_utf8EncodeChar hencode
  rw [hencode, List.cons_append, decode, hb]
  dsimp only
  rw [trailing_of_inRange bits hbs, hnumber, Option.map_some, Option.getD_some, Char.ofNat_toNat]

/-- A text comes back from its encoding. -/
theorem decode_encode (t : Text) : decode (encode t) = t := by
  induction t with
  | nil => exact decode_nil
  | cons c t ih =>
      rw [encode, List.flatMap_cons, decode_char_append]
      exact congrArg (c :: ·) ih

end LineShell.Text
