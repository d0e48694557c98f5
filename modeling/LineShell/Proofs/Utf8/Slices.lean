import LineShell.Proofs.Utf8.Ascii

/-! # Slices of encoded text

Bytes can be cut between two characters and nowhere else. An ASCII byte is a character of its own, so
its offset is such a place, and so is every offset that a search over characters gives. -/

namespace LineShell.Text

/-- Bytes are well formed if they are the encoding of a text. -/
def IsUtf8 (bs : Bytes) : Prop := ∃ t, encode t = bs

theorem isUtf8_encode (t : Text) : IsUtf8 (encode t) := ⟨t, rfl⟩

theorem IsUtf8.encode_decode {bs : Bytes} (h : IsUtf8 bs) : encode (decode bs) = bs := by
  obtain ⟨t, rfl⟩ := h
  rw [decode_encode]

theorem encode_append (s t : Text) : encode (s ++ t) = encode s ++ encode t := List.flatMap_append ..

theorem encode_cons (c : Char) (t : Text) : encode (c :: t) = String.utf8EncodeChar c ++ encode t :=
  List.flatMap_cons ..

/-! ## Boundaries -/

/-- A character may begin or end at an offset: it is the start or the end, or the byte there does not
continue a character. -/
def isBoundary (bs : Bytes) (offset : Nat) : Bool :=
  match bs[offset]? with
  | some b => offset == 0 || b < 0x80 || 0xC0 ≤ b
  | none => offset == bs.length

/-- The bytes between two offsets, unless one of them is out of range or inside a character. -/
def slice? (bs : Bytes) (start stop : Nat) : Option Bytes :=
  if start ≤ stop ∧ isBoundary bs start ∧ isBoundary bs stop then some ((bs.take stop).drop start)
  else none

theorem isBoundary_zero (bs : Bytes) : isBoundary bs 0 := by
  cases bs <;> simp [isBoundary]

theorem isBoundary_length (bs : Bytes) : isBoundary bs bs.length := by
  simp [isBoundary]

/-- No character begins with a byte that continues one. -/
theorem lt_or_le_of_utf8EncodeChar {c : Char} {b : UInt8} {bs : Bytes}
    (h : String.utf8EncodeChar c = b :: bs) : b < 0x80 ∨ 0xC0 ≤ b := by
  obtain ⟨bits, ranges, hlead, -, -⟩ := leading_of_utf8EncodeChar h
  have hcases := leading_cases hlead
  simp only [UInt8.lt_iff_toNat_lt, UInt8.le_iff_toNat_le, UInt8.reduceToNat]
  omega

theorem isBoundary_encode_append (s t : Text) :
    isBoundary (encode (s ++ t)) (encode s).length := by
  cases t with
  | nil =>
      rw [List.append_nil]
      exact isBoundary_length _
  | cons c t =>
      obtain ⟨b, bs, hencode⟩ := List.exists_cons_of_ne_nil (String.utf8EncodeChar_ne_nil (c := c))
      have hfirst := lt_or_le_of_utf8EncodeChar hencode
      have hget : (encode (s ++ c :: t))[(encode s).length]? = some b := by
        rw [encode_append, encode_cons, hencode, List.getElem?_append_right (Nat.le_refl _)]
        simp
      rw [isBoundary, hget]
      simp [or_assoc, hfirst]

/-- The front of an encoded text can be cut off. -/
theorem slice?_encode_front (s t : Text) :
    slice? (encode (s ++ t)) 0 (encode s).length = some (encode s) := by
  rw [slice?, if_pos ⟨Nat.zero_le _, isBoundary_zero _, isBoundary_encode_append s t⟩, encode_append,
    List.take_left, List.drop_zero]

/-- And so can what is behind it. -/
theorem slice?_encode_rest (s t : Text) :
    slice? (encode (s ++ t)) (encode s).length (encode (s ++ t)).length = some (encode t) := by
  have hle : (encode s).length ≤ (encode (s ++ t)).length := by
    rw [encode_append, List.length_append]
    exact Nat.le_add_right _ _
  rw [slice?, if_pos ⟨hle, isBoundary_encode_append s t, isBoundary_length _⟩, List.take_length,
    encode_append, List.drop_left]

theorem length_of_slice? {bs part : Bytes} {start stop : Nat} (h : slice? bs start stop = some part) :
    part.length ≤ bs.length - start := by
  rw [slice?] at h
  split at h
  · cases h
    rw [List.length_drop, List.length_take]
    omega
  · cases h

/-! ## Searching for an ASCII byte -/

/-- An ASCII byte of an encoded character is the whole of it. -/
theorem toNat_eq_of_mem_utf8EncodeChar {c : Char} {b : UInt8} (hb : b < 0x80)
    (h : b ∈ String.utf8EncodeChar c) : c.toNat = b.toNat := by
  obtain ⟨d, bs, hencode⟩ := List.exists_cons_of_ne_nil (String.utf8EncodeChar_ne_nil (c := c))
  obtain ⟨bits, ranges, hlead, hbs, hnumber⟩ := leading_of_utf8EncodeChar hencode
  rw [hencode] at h
  rcases List.mem_cons.mp h with rfl | h
  · rw [leading_one (UInt8.lt_iff_toNat_lt.mp hb)] at hlead
    cases hlead
    cases hbs
    exact hnumber.symm
  · have hcontinuing := le_of_forall₂_inRange (bounds_of_leading hlead) hbs b h
    exact absurd hcontinuing (UInt8.not_le.mpr hb)

theorem mem_of_mem_encode {t : Text} {c : Char} {b : UInt8} (hb : b < 0x80)
    (hc : c.toNat = b.toNat) (h : b ∈ encode t) : c ∈ t := by
  obtain ⟨d, hd, hmem⟩ := List.mem_flatMap.mp h
  have heq := toNat_eq_of_mem_utf8EncodeChar hb hmem
  rw [← hc] at heq
  rwa [Char.toNat_inj.mp heq] at hd

/-! ## Searching over characters -/

/-- The first character of well-formed bytes and what follows it. -/
def nextChar? : Bytes → Option (Char × Bytes)
  | [] => none
  | b :: bs =>
    match leading b with
    | none => none
    | some (bits, ranges) =>
      match trailing bits ranges bs with
      | (some n, rest) => some (Char.ofNat n, rest)
      | (none, _) => none

theorem length_of_nextChar? {bs rest : Bytes} {c : Char} (h : nextChar? bs = some (c, rest)) :
    rest.length < bs.length := by
  fun_cases nextChar? bs with
  | case1 => cases h
  | case2 b bs hlead => simp [nextChar?, hlead] at h
  | case3 b bs bits ranges hlead n rest' htrail =>
      have hle := length_trailing_le bits ranges bs
      rw [htrail] at hle
      simp only [nextChar?, hlead, htrail, Option.some.injEq, Prod.mk.injEq] at h
      obtain ⟨-, rfl⟩ := h
      exact Nat.lt_succ_of_le hle
  | case4 b bs bits ranges hlead rest' htrail => simp [nextChar?, hlead, htrail] at h

/-- The offset of the first character with a property. -/
def findChar? (p : Char → Bool) (bs : Bytes) : Option Nat :=
  match _h : nextChar? bs with
  | none => none
  | some (c, rest) =>
    if p c then some 0 else (findChar? p rest).map (· + (bs.length - rest.length))
termination_by bs.length
decreasing_by exact length_of_nextChar? _h

theorem nextChar?_append (c : Char) (rest : Bytes) :
    nextChar? (String.utf8EncodeChar c ++ rest) = some (c, rest) := by
  obtain ⟨b, bs, hencode⟩ := List.exists_cons_of_ne_nil (String.utf8EncodeChar_ne_nil (c := c))
  obtain ⟨bits, ranges, hb, hbs, hnumber⟩ := leading_of_utf8EncodeChar hencode
  rw [hencode, List.cons_append, nextChar?, hb]
  dsimp only
  rw [trailing_of_inRange bits hbs, hnumber]
  dsimp only
  rw [Char.ofNat_toNat]

theorem findChar?_encode_cons (p : Char → Bool) (c : Char) (t : Text) :
    findChar? p (encode (c :: t)) =
      if p c then some 0
      else (findChar? p (encode t)).map (· + (String.utf8EncodeChar c).length) := by
  have hnext := nextChar?_append c (encode t)
  have hwidth : (String.utf8EncodeChar c ++ encode t).length - (encode t).length =
      (String.utf8EncodeChar c).length := by
    rw [List.length_append, Nat.add_sub_cancel]
  rw [findChar?, encode_cons]
  split
  · rename_i h
    rw [hnext] at h
    cases h
  · rename_i d rest h
    rw [hnext] at h
    cases h
    rw [hwidth]

/-- Up to the first character with a property, or to the end if there is none, stand the characters
without it. -/
theorem findChar?_encode (p : Char → Bool) (t : Text) :
    (findChar? (fun c => !p c) (encode t)).getD (encode t).length =
      (encode (t.takeWhile p)).length := by
  induction t with
  | nil =>
      have hnone : findChar? (fun c => !p c) (encode []) = none := by
        rw [findChar?]
        rfl
      rw [hnone]
      rfl
  | cons c t ih =>
      rw [findChar?_encode_cons]
      by_cases hc : p c
      · rw [List.takeWhile_cons_of_pos hc, encode_cons, encode_cons, List.length_append,
          List.length_append, ← ih, hc, if_neg (by simp)]
        cases findChar? (fun c => !p c) (encode t) with
        | none => rfl
        | some offset => exact Nat.add_comm _ _
      · rw [List.takeWhile_cons_of_neg hc, if_pos (by simpa using hc)]
        rfl

end LineShell.Text
