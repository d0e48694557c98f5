import LineShell.Proofs.Utf8.Lossy
import Mathlib.Data.List.Basic

/-! # ASCII in encoded text

A byte below 80 stands for a character by itself and is part of no other. So bytes can be cut at such
a byte before they are decoded, and an ASCII character of the decoded text gives such a cut. -/

namespace LineShell.Text

/-! ## Bytes of characters -/

theorem le_of_forall₂_inRange {ranges : List (UInt8 × UInt8)} {bs : Bytes}
    (hranges : ∀ range ∈ ranges, 0x80 ≤ range.1 ∧ range.1 ≤ range.2)
    (h : List.Forall₂ InRange ranges bs) : ∀ b ∈ bs, 0x80 ≤ b := by
  induction h with
  | nil => simp
  | cons hb h ih =>
      obtain ⟨hrange, hrest⟩ := List.forall_mem_cons.mp hranges
      exact List.forall_mem_cons.mpr ⟨UInt8.le_trans hrange.1 hb.1, ih hrest⟩

/-- Only the first byte of a character can be ASCII. -/
theorem not_beginsChar {front more : Bytes} {b : UInt8} (hne : front ≠ []) (hb : b < 0x80) :
    ¬ BeginsChar (front ++ b :: more) := by
  rintro ⟨c, rest, hencode⟩
  obtain ⟨d, front, rfl⟩ := List.exists_cons_of_ne_nil hne
  obtain ⟨bits, ranges, hlead, hbs, -⟩ := leading_of_utf8EncodeChar hencode.symm
  have hcontinuing := le_of_forall₂_inRange (bounds_of_leading hlead) hbs b (by simp)
  exact absurd hcontinuing (UInt8.not_le.mpr hb)

theorem prefix_of_beginsChar {front more longer : Bytes} {b : UInt8} (hne : front ≠ [])
    (hb : b < 0x80) (hlonger : longer <+: front ++ b :: more) (hbegins : BeginsChar longer) :
    longer <+: front := by
  rcases List.prefix_or_prefix_of_prefix hlonger (List.prefix_append front _) with h | ⟨rest, rfl⟩
  · exact h
  · rcases List.prefix_cons_iff.mp ((List.prefix_append_right_inj _).mp hlonger) with
      rfl | ⟨rest, rfl, -⟩
    · simp
    · exact absurd hbegins (not_beginsChar hne hb)

/-! ## Decoding in parts -/

/-- An ASCII byte continues nothing, so it does not matter what else follows. -/
theorem IsMaximalSubpart.append {part rest : Bytes} (h : IsMaximalSubpart part rest) {b : UInt8}
    (hb : b < 0x80) (more : Bytes) : IsMaximalSubpart part (rest ++ b :: more) := by
  have hshorter : ∀ longer, longer <+: part ++ (rest ++ b :: more) → BeginsChar longer →
      longer <+: part ++ rest := by
    intro longer hlonger hbegins
    rw [← List.append_assoc] at hlonger
    exact prefix_of_beginsChar (List.append_ne_nil_of_left_ne_nil h.ne_nil rest) hb hlonger hbegins
  constructor
  · intro c hc
    exact h.noChar c (hshorter _ hc ⟨c, List.prefix_rfl⟩)
  · exact h.ne_nil
  · exact h.begins
  · intro longer hlonger hbegins
    exact h.longest longer (hshorter longer hlonger hbegins) hbegins

theorem Lossy.append {bs more : Bytes} {t u : Text} (h : Lossy bs t) {b : UInt8} (hb : b < 0x80)
    (hmore : Lossy (b :: more) u) : Lossy (bs ++ b :: more) (t ++ u) := by
  induction h with
  | nil => exact hmore
  | char c h ih =>
      rw [List.append_assoc]
      exact .char c ih
  | replaced hpart h ih =>
      rw [List.append_assoc]
      exact .replaced (hpart.append hb more) ih

/-- Bytes in front of an ASCII byte are decoded on their own. -/
theorem decode_append {b : UInt8} (hb : b < 0x80) (bs rest : Bytes) :
    decode (bs ++ b :: rest) = decode bs ++ decode (b :: rest) :=
  (lossy_iff.mp ((lossy_decode bs).append hb (lossy_decode (b :: rest)))).symm

theorem decode_cons_of_ascii {b : UInt8} (hb : b < 0x80) (bs : Bytes) :
    decode (b :: bs) = Char.ofNat b.toNat :: decode bs := by
  rw [decode, leading_one (UInt8.lt_iff_toNat_lt.mp hb)]
  rfl

theorem decode_eq_nil_iff {bs : Bytes} : decode bs = [] ↔ bs = [] := by
  fun_cases decode bs <;> simp

/-! ## Where ASCII comes from -/

/-- An ASCII character of the decoded text comes from its own byte, and what follows it comes from
what follows the byte. -/
theorem Lossy.exists_of_eq {bs : Bytes} {t before after : Text} {c : Char} (h : Lossy bs t)
    (hc : c.toNat < 0x80) (heq : t = before ++ c :: after) :
    ∃ front rest, bs = front ++ UInt8.ofNat c.toNat :: rest ∧ Lossy rest after := by
  induction h generalizing before with
  | nil => simp at heq
  | @char d rest t h ih =>
      cases before with
      | nil =>
          obtain ⟨rfl, rfl⟩ := List.cons.inj heq
          obtain ⟨b, hencode, hb⟩ := utf8EncodeChar_one hc
          exact ⟨[], rest, by rw [hencode, ← hb, UInt8.ofNat_toNat]; rfl, h⟩
      | cons e before =>
          obtain ⟨front, rest, rfl, hrest⟩ := ih (List.cons.inj heq).2
          exact ⟨String.utf8EncodeChar d ++ front, rest, by rw [List.append_assoc], hrest⟩
  | @replaced part rest t hpart h ih =>
      cases before with
      | nil =>
          obtain ⟨rfl, -⟩ := List.cons.inj heq
          exact absurd hc (by decide)
      | cons e before =>
          obtain ⟨front, rest, rfl, hrest⟩ := ih (List.cons.inj heq).2
          exact ⟨part ++ front, rest, by rw [List.append_assoc], hrest⟩

theorem mem_of_mem_decode {bs : Bytes} {c : Char} (hc : c.toNat < 0x80) (h : c ∈ decode bs) :
    UInt8.ofNat c.toNat ∈ bs := by
  obtain ⟨before, after, hsplit⟩ := List.append_of_mem h
  obtain ⟨front, rest, rfl, -⟩ := (lossy_decode bs).exists_of_eq hc hsplit
  exact List.mem_append_right front List.mem_cons_self

theorem getLast?_of_getLast?_decode {bs : Bytes} {c : Char} (hc : c.toNat < 0x80)
    (h : (decode bs).getLast? = some c) : bs.getLast? = some (UInt8.ofNat c.toNat) := by
  obtain ⟨before, hsplit⟩ := List.getLast?_eq_some_iff.mp h
  obtain ⟨front, rest, rfl, hrest⟩ := (lossy_decode bs).exists_of_eq hc hsplit
  rw [decode_eq_nil_iff.mp (lossy_iff.mp hrest).symm]
  exact List.getLast?_concat

end LineShell.Text
