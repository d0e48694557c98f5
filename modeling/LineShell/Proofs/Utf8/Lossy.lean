import LineShell.Proofs.Utf8.Characters

/-! # Lossy decoding

What decoding gives for bytes that are not well formed. Characters are decoded one after the other;
where there is none, the longest part that some character begins with, or one byte if there is no
such part, is replaced by U+FFFD. -/

namespace LineShell.Text

/-- Some character begins with these bytes. -/
def BeginsChar (bs : Bytes) : Prop := ∃ c : Char, bs <+: String.utf8EncodeChar c

/-- Bytes that are replaced by one U+FFFD: the longest beginning of a character that is there, or
one byte if there is none, where no whole character is there. -/
structure IsMaximalSubpart (part rest : Bytes) : Prop where
  noChar : ∀ c : Char, ¬ String.utf8EncodeChar c <+: part ++ rest
  ne_nil : part ≠ []
  begins : BeginsChar part ∨ part.length = 1
  longest : ∀ longer, longer <+: part ++ rest → BeginsChar longer → longer.length ≤ part.length

/-- The text that bytes stand for, each maximal subpart of what is ill formed replaced. -/
inductive Lossy : Bytes → Text → Prop
  | nil : Lossy [] []
  | char (c : Char) {rest : Bytes} {t : Text} (h : Lossy rest t) :
      Lossy (String.utf8EncodeChar c ++ rest) (c :: t)
  | replaced {part rest : Bytes} {t : Text} (hpart : IsMaximalSubpart part rest)
      (h : Lossy rest t) : Lossy (part ++ rest) (replacement :: t)

theorem IsMaximalSubpart.length_le {part rest part' rest' : Bytes}
    (h : IsMaximalSubpart part rest) (h' : IsMaximalSubpart part' rest')
    (heq : part ++ rest = part' ++ rest') : part'.length ≤ part.length := by
  rcases h'.begins with hbegins | hone
  · exact h.longest part' (heq ▸ List.prefix_append part' rest') hbegins
  · rw [hone]
    exact List.length_pos_iff.mpr h.ne_nil

/-! ## One step of decoding -/

/-- A byte that leads nothing begins no character. -/
theorem isMaximalSubpart_of_leading_eq_none {b : UInt8} (hb : leading b = none) (rest : Bytes) :
    IsMaximalSubpart [b] rest := by
  have hnone : ∀ longer, longer <+: b :: rest → BeginsChar longer → longer = [] := by
    rintro longer hlonger ⟨c, more, hencode⟩
    obtain hnil | ⟨bs, rfl, -⟩ := List.prefix_cons_iff.mp hlonger
    · exact hnil
    · obtain ⟨bits, ranges, hlead, -⟩ := leading_of_utf8EncodeChar hencode.symm
      rw [hb] at hlead
      cases hlead
  constructor
  · intro c hc
    exact String.utf8EncodeChar_ne_nil (hnone _ hc ⟨c, List.prefix_rfl⟩)
  · exact List.cons_ne_nil b []
  · exact .inr rfl
  · intro longer hlonger hbegins
    rw [hnone longer hlonger hbegins]
    exact Nat.zero_le _

section
variable {b : UInt8} {bits : Nat} {before after : List (UInt8 × UInt8)} {range : UInt8 × UInt8}
  {taken rest : Bytes}

/-- No character goes on where reading stopped, since it would have a byte in the range there. -/
theorem length_le_of_not_inRange (hb : leading b = some (bits, before ++ range :: after))
    (htaken : List.Forall₂ InRange before taken) (hrest : ∀ d ∈ rest.head?, ¬ InRange range d)
    {longer : Bytes} (hlonger : longer <+: b :: taken ++ rest) (hbegins : BeginsChar longer) :
    longer.length ≤ (b :: taken).length := by
  obtain ⟨c, more, hencode⟩ := hbegins
  by_contra hlt
  obtain ⟨further, rfl⟩ :=
    List.prefix_of_prefix_length_le (List.prefix_append _ rest) hlonger (Nat.le_of_not_le hlt)
  cases further with
  | nil => simp at hlt
  | cons d further =>
      obtain ⟨rest', rfl, -⟩ :=
        List.cons_prefix_iff.mp ((List.prefix_append_right_inj _).mp hlonger)
      rw [List.append_assoc, List.cons_append, List.cons_append] at hencode
      have hbs := inRange_of_utf8EncodeChar hb hencode.symm
      have hdrop := List.forall₂_drop_append _ _ _ hbs
      rw [← htaken.length_eq, List.drop_left] at hdrop
      obtain _ | ⟨hd, -⟩ := hdrop
      exact hrest d rfl hd

/-- A character that breaks off is a maximal subpart. -/
theorem isMaximalSubpart_of_not_inRange (hb : leading b = some (bits, before ++ range :: after))
    (htaken : List.Forall₂ InRange before taken) (hrest : ∀ d ∈ rest.head?, ¬ InRange range d) :
    IsMaximalSubpart (b :: taken) rest := by
  constructor
  · intro c hc
    obtain ⟨d, bs, hencode⟩ := List.exists_cons_of_ne_nil (String.utf8EncodeChar_ne_nil (c := c))
    have hshort := length_le_of_not_inRange hb htaken hrest hc ⟨c, List.prefix_rfl⟩
    rw [hencode] at hc hshort
    obtain ⟨_, heq, -⟩ := List.cons_prefix_iff.mp hc
    obtain rfl : b = d := (List.cons.inj heq).1
    have hbs := (inRange_of_utf8EncodeChar hb hencode).length_eq
    have hlength := htaken.length_eq
    simp only [List.length_append, List.length_cons] at hbs hshort
    omega
  · exact List.cons_ne_nil b taken
  · -- The least bytes in the ranges that are left make the character whole.
    have hlow : List.Forall₂ InRange (range :: after) ((range :: after).map Prod.fst) := by
      rw [List.forall₂_map_right_iff, List.forall₂_same]
      intro r hr
      exact ⟨UInt8.le_refl r.1, (bounds_of_leading hb r (List.mem_append_right before hr)).2⟩
    obtain ⟨c, -, hencode⟩ := exists_utf8EncodeChar hb (List.rel_append htaken hlow)
    exact .inl ⟨c, hencode ▸ List.prefix_append (b :: taken) _⟩
  · exact fun longer hlonger hbegins => length_le_of_not_inRange hb htaken hrest hlonger hbegins

end

/-- Decoding begins with a character, if there is one, and else replaces a maximal subpart. -/
theorem decode_cases (b : UInt8) (bs : Bytes) :
    (∃ (c : Char) (rest : Bytes), b :: bs = String.utf8EncodeChar c ++ rest ∧
      decode (b :: bs) = c :: decode rest) ∨
    ∃ part rest, b :: bs = part ++ rest ∧ IsMaximalSubpart part rest ∧
      decode (b :: bs) = replacement :: decode rest := by
  cases hb : leading b with
  | none =>
      refine .inr ⟨[b], bs, rfl, isMaximalSubpart_of_leading_eq_none hb bs, ?_⟩
      rw [decode, hb]
  | some row =>
      obtain ⟨bits, ranges⟩ := row
      obtain ⟨taken, rest, rfl, ⟨htaken, heq⟩ | ⟨before, range, after, rfl, htaken, hrest, heq⟩⟩ :=
        trailing_cases bits ranges bs
      · obtain ⟨c, hc, hencode⟩ := exists_utf8EncodeChar hb htaken
        refine .inl ⟨c, rest, by rw [hencode, List.cons_append], ?_⟩
        rw [← List.cons_append, ← hencode, decode_char_append]
      · refine .inr ⟨b :: taken, rest, by rw [List.cons_append],
          isMaximalSubpart_of_not_inRange hb htaken hrest, ?_⟩
        rw [decode, hb]
        dsimp only
        rw [heq]
        rfl

/-! ## Decoding -/

theorem lossy_decode (bs : Bytes) : Lossy bs (decode bs) := by
  induction hn : bs.length using Nat.strongRecOn generalizing bs with
  | ind n ih =>
      subst hn
      cases bs with
      | nil =>
          rw [decode_nil]
          exact .nil
      | cons b bs =>
          obtain ⟨c, rest, heq, hdecode⟩ | ⟨part, rest, heq, hpart, hdecode⟩ := decode_cases b bs
          · rw [hdecode]
            rw [heq] at ih ⊢
            refine .char c (ih _ ?_ rest rfl)
            have := List.length_pos_iff.mpr (String.utf8EncodeChar_ne_nil (c := c))
            rw [List.length_append]
            omega
          · rw [hdecode]
            rw [heq] at ih ⊢
            refine .replaced hpart (ih _ ?_ rest rfl)
            have := List.length_pos_iff.mpr hpart.ne_nil
            rw [List.length_append]
            omega

/-- Decoding replaces just what is a maximal subpart. -/
theorem decode_append_of_isMaximalSubpart {part rest : Bytes} (h : IsMaximalSubpart part rest) :
    decode (part ++ rest) = replacement :: decode rest := by
  obtain ⟨b, bs, heq⟩ := List.exists_cons_of_ne_nil (List.append_ne_nil_of_left_ne_nil h.ne_nil rest)
  obtain ⟨c, rest', heq', -⟩ | ⟨part', rest', heq', h', hdecode⟩ := decode_cases b bs
  · refine absurd ?_ (h.noChar c)
    rw [heq, heq']
    exact List.prefix_append _ rest'
  · have hsame : part ++ rest = part' ++ rest' := heq.trans heq'
    have hlength := Nat.le_antisymm (h'.length_le h hsame.symm) (h.length_le h' hsame)
    rw [heq, hdecode, (List.append_inj hsame hlength).2]

/-- Decoding is lossy decoding. -/
theorem lossy_iff {bs : Bytes} {t : Text} : Lossy bs t ↔ t = decode bs := by
  constructor
  · intro h
    induction h with
    | nil => rw [decode_nil]
    | char c h ih => rw [decode_char_append, ih]
    | replaced hpart h ih => rw [decode_append_of_isMaximalSubpart hpart, ih]
  · rintro rfl
    exact lossy_decode bs

end LineShell.Text
