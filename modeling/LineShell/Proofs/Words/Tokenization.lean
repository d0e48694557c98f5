import LineShell.Proofs.Prepare.Equations

/-! # Tokenization

Words with blanks around them make up a text, and each text is made up of one list of words. The
tokenizer finds that list and rejects it if it is too long. It makes no difference that the counting
may stop at the first word too many. -/

namespace LineShell

namespace Text

/-! ## Words and the blanks around them -/

/-- Blanks, and then words with blanks behind each: `front` is the number of blanks in front, and each
word goes with the number of blanks behind it. -/
def layout (front : Nat) (parts : List (Text × Nat)) : Text :=
  List.replicate front ' ' ++ parts.flatMap fun part => part.1 ++ List.replicate part.2 ' '

/-- Behind each word but the last stands at least one blank. -/
def KeptApart (parts : List (Text × Nat)) : Prop := ∀ part ∈ parts.dropLast, 0 < part.2

/-- A text consists of words if it is these words in order, with at least one blank between
neighbours, any blanks at both ends, and nothing else. -/
def ConsistsOf (ws : List Text) (t : Text) : Prop :=
  (∀ w ∈ ws, IsWord w) ∧
    ∃ front parts, parts.map Prod.fst = ws ∧ KeptApart parts ∧ t = layout front parts

theorem layout_cons (front : Nat) (part : Text × Nat) (parts : List (Text × Nat)) :
    layout front (part :: parts) =
      List.replicate front ' ' ++ (part.1 ++ layout part.2 parts) := by
  rw [layout, layout, List.flatMap_cons, List.append_assoc]

theorem layout_succ (front : Nat) (parts : List (Text × Nat)) :
    layout (front + 1) parts = ' ' :: layout front parts := rfl

theorem layout_zero_cons (part : Text × Nat) (parts : List (Text × Nat)) :
    layout 0 (part :: parts) = part.1 ++ layout part.2 parts := layout_cons 0 part parts

theorem KeptApart.tail {part : Text × Nat} {parts : List (Text × Nat)}
    (h : KeptApart (part :: parts)) : KeptApart parts := by
  intro p hp
  cases parts with
  | nil => cases hp
  | cons next parts => exact h p (List.mem_cons_of_mem part hp)

theorem KeptApart.cons {part : Text × Nat} {parts : List (Text × Nat)} (h : KeptApart parts)
    (hpart : parts ≠ [] → 0 < part.2) : KeptApart (part :: parts) := by
  intro p hp
  cases parts with
  | nil => cases hp
  | cons next parts =>
      rcases List.mem_cons.mp hp with rfl | hp
      · exact hpart (List.cons_ne_nil next parts)
      · exact h p hp

/-- The end of a word in a layout: blanks, or the end of the text. -/
theorem KeptApart.endsWord {part : Text × Nat} {parts : List (Text × Nat)}
    (h : KeptApart (part :: parts)) : EndsWord (layout part.2 parts) := by
  cases parts with
  | nil =>
      cases part.2 with
      | zero => exact endsWord_nil
      | succ n => exact endsWord_blank _
  | cons next parts =>
      have hpos : 0 < part.2 := h part List.mem_cons_self
      obtain ⟨n, hn⟩ := Nat.exists_eq_succ_of_ne_zero (Nat.ne_of_gt hpos)
      rw [hn, layout_succ]
      exact endsWord_blank _

theorem words_blanks_append (n : Nat) (t : Text) : words (List.replicate n ' ' ++ t) = words t := by
  induction n with
  | zero => rfl
  | succ n ih => rw [List.replicate_succ, List.cons_append, words_blank, ih]

/-- A layout has the words that it was made of. -/
theorem words_layout (front : Nat) {parts : List (Text × Nat)}
    (hword : ∀ part ∈ parts, IsWord part.1) (hgaps : KeptApart parts) :
    words (layout front parts) = parts.map Prod.fst := by
  induction parts generalizing front with
  | nil => exact (words_blanks_append front []).trans words_nil
  | cons part parts ih =>
      obtain ⟨hpart, hparts⟩ := List.forall_mem_cons.mp hword
      rw [layout_cons, words_blanks_append, words_word_append hpart hgaps.endsWord,
        ih part.2 hparts hgaps.tail, List.map_cons]

/-- Without a blank in front, the first word of a layout would go on with what is in front of it. -/
theorem pos_of_endsWord_layout {front : Nat} {part : Text × Nat} {parts : List (Text × Nat)}
    (h : EndsWord (layout front (part :: parts))) (hpart : IsWord part.1) : 0 < front := by
  refine Nat.pos_of_ne_zero ?_
  rintro rfl
  obtain ⟨c, cs, hc⟩ := List.exists_cons_of_ne_nil hpart.1
  rw [layout_zero_cons, hc] at h
  refine hpart.blank_not_mem ?_
  rw [hc, h c rfl]
  exact List.mem_cons_self

/-- Every text is a layout of its words. -/
theorem exists_layout (t : Text) :
    ∃ front parts, parts.map Prod.fst = words t ∧ KeptApart parts ∧ t = layout front parts := by
  induction t using wordInduction with
  | nil => exact ⟨0, [], words_nil.symm, by simp [KeptApart], rfl⟩
  | blank t ih =>
      obtain ⟨front, parts, hwords, hgaps, ht⟩ := ih
      refine ⟨front + 1, parts, ?_, hgaps, ?_⟩
      · rw [words_blank, hwords]
      · rw [layout_succ, ← ht]
  | word w rest hw hr ih =>
      obtain ⟨front, parts, hwords, hgaps, hrest⟩ := ih
      refine ⟨0, (w, front) :: parts, ?_, hgaps.cons ?_, ?_⟩
      · rw [List.map_cons, hwords, words_word_append hw hr]
      · intro hparts
        obtain ⟨next, parts, rfl⟩ := List.exists_cons_of_ne_nil hparts
        have hnext : next.1 ∈ words rest := hwords ▸ List.mem_cons_self
        rw [hrest] at hr
        exact pos_of_endsWord_layout hr (isWord_of_mem_words hnext)
      · rw [layout_zero_cons, ← hrest]

/-- The words of a text are the one list that it consists of. -/
theorem consistsOf_iff {ws : List Text} {t : Text} : ConsistsOf ws t ↔ words t = ws := by
  constructor
  · rintro ⟨hword, front, parts, rfl, hgaps, rfl⟩
    refine words_layout front ?_ hgaps
    intro part hpart
    exact hword part.1 (List.mem_map_of_mem hpart)
  · rintro rfl
    exact ⟨fun w hw => isWord_of_mem_words hw, exists_layout t⟩

end Text

open Text

/-! ## Counting while cutting -/

/-- Takes what lies between the blanks of a line, part by part, behind the words that were taken before.
Empty parts are left out, and the first word too many ends it. -/
def takeWords (taken : List Text) : List Text → Except LineError (List Text)
  | [] => .ok taken
  | part :: parts =>
    if part = [] then takeWords taken parts
    else if taken.length = maxWords then .error .tooManyWords
    else takeWords (taken ++ [part]) parts

theorem takeWords_eq {taken : List Text} (h : taken.length ≤ maxWords) (parts : List Text) :
    takeWords taken parts =
      if maxWords < (taken ++ parts.filter (· ≠ [])).length then .error .tooManyWords
      else .ok (taken ++ parts.filter (· ≠ [])) := by
  induction parts generalizing taken with
  | nil =>
      rw [takeWords, List.filter_nil, List.append_nil, if_neg (Nat.not_lt.mpr h)]
  | cons part parts ih =>
      rw [takeWords]
      by_cases hpart : part = []
      · rw [if_pos hpart, ih h, List.filter_cons_of_neg (by simpa using hpart)]
      · rw [if_neg hpart, List.filter_cons_of_pos (by simpa using hpart)]
        by_cases hfull : taken.length = maxWords
        · have hlong : maxWords < (taken ++ part :: parts.filter (· ≠ [])).length := by
            rw [List.length_append, List.length_cons]
            omega
          rw [if_pos hfull, if_pos hlong]
        · have hroom : (taken ++ [part]).length ≤ maxWords := by
            rw [List.length_append, List.length_singleton]
            omega
          rw [if_neg hfull, ih hroom, List.append_assoc, List.singleton_append]

/-- To stop at the first word too many comes to the same as to count all words at the end. -/
theorem tokenize_eq_takeWords (line : Text) : tokenize line = takeWords [] (cut ' ' line) := by
  have htaken : List.length ([] : List Text) ≤ maxWords := Nat.zero_le maxWords
  rw [tokenize_eq, takeWords_eq htaken, words_eq_runs]
  rfl

/-! ## The tokenizer -/

theorem tokenize_eq_ok_iff {line : Text} {ws : List Text} :
    tokenize line = .ok ws ↔ ws.length ≤ maxWords ∧ ConsistsOf ws line := by
  rw [tokenize_eq, consistsOf_iff]
  split
  · rename_i hlong
    simp only [reduceCtorEq, false_iff, not_and]
    rintro hshort rfl
    exact Nat.not_lt.mpr hshort hlong
  · rename_i hshort
    constructor
    · intro h
      obtain rfl := Except.ok.inj h
      exact ⟨Nat.le_of_not_lt hshort, rfl⟩
    · rintro ⟨-, rfl⟩
      rfl

theorem tokenize_eq_error_iff {line : Text} {e : LineError} :
    tokenize line = .error e ↔
      e = .tooManyWords ∧ ∃ ws, ConsistsOf ws line ∧ maxWords < ws.length := by
  simp only [tokenize_eq, consistsOf_iff, exists_eq_left']
  split <;> simp_all [eq_comm]

theorem tokenize_blank_append {s t : Text} {ws vs : List Text} (hs : ConsistsOf ws s)
    (ht : ConsistsOf vs t) :
    tokenize (s ++ ' ' :: t) =
      if ws.length + vs.length ≤ maxWords then .ok (ws ++ vs) else .error .tooManyWords := by
  have hwords : words (s ++ ' ' :: t) = ws ++ vs := by
    rw [words_append s (endsWord_blank t), words_blank, consistsOf_iff.mp hs, consistsOf_iff.mp ht]
  rw [tokenize, hwords, List.length_append]

/-- The tokenizer stops at the first word too many, and gives the list of words that the line consists
of if they are at most 128. Each line consists of exactly one list of words, and the line is rejected if
these are more than 128. So up to 128 words come back from any line that they were laid out in, and a
blank between two texts puts the words of the second behind those of the first. -/
theorem tokenize_spec :
    (∀ line, tokenize line = takeWords [] (cut ' ' line)) ∧
    (∀ line ws, tokenize line = .ok ws ↔ ws.length ≤ 128 ∧ ConsistsOf ws line) ∧
    (∀ line, ∃! ws, ConsistsOf ws line) ∧
    (∀ line e, tokenize line = .error e ↔
      e = .tooManyWords ∧ ∃ ws, ConsistsOf ws line ∧ 128 < ws.length) ∧
    (∀ front parts, parts.length ≤ 128 → (∀ part ∈ parts, IsWord part.1) → KeptApart parts →
      tokenize (layout front parts) = .ok (parts.map Prod.fst)) ∧
    ∀ s t ws vs, ConsistsOf ws s → ConsistsOf vs t →
      tokenize (s ++ ' ' :: t) =
        if ws.length + vs.length ≤ 128 then .ok (ws ++ vs) else .error .tooManyWords := by
  refine ⟨tokenize_eq_takeWords, fun line ws => tokenize_eq_ok_iff, ?_,
    fun line e => tokenize_eq_error_iff, ?_, fun s t ws vs => tokenize_blank_append⟩
  · intro line
    refine ⟨words line, consistsOf_iff.mpr rfl, ?_⟩
    intro ws hws
    exact (consistsOf_iff.mp hws).symm
  · intro front parts hlength hword hgaps
    rw [tokenize_eq_ok_iff, consistsOf_iff, words_layout front hword hgaps, List.length_map]
    exact ⟨hlength, rfl⟩

/-- A line of 128 words with a blank behind the last of them is accepted, and one more word behind
another blank is one too many. -/
theorem tokenize_spec_at_limit :
    let parts := List.replicate 128 (['x'], 1)
    let line := layout 0 parts
    (parts.length ≤ 128 ∧ (∀ part ∈ parts, IsWord part.1) ∧ KeptApart parts ∧
      ConsistsOf (List.replicate 128 ['x']) line ∧ ConsistsOf [['y']] ['y']) ∧
    tokenize line = .ok (List.replicate 128 ['x']) ∧
    tokenize (line ++ ' ' :: ['y']) = .error .tooManyWords := by
  intro parts line
  obtain ⟨-, -, -, -, hlayout, happend⟩ := tokenize_spec
  have hx : IsWord ['x'] := by simp [IsWord, notBlank]
  have hlength : parts.length ≤ 128 := Nat.le_of_eq List.length_replicate
  have hword : ∀ part ∈ parts, IsWord part.1 := by
    intro part hpart
    rw [List.eq_of_mem_replicate hpart]
    exact hx
  have hgaps : KeptApart parts := by
    intro part hpart
    rw [List.eq_of_mem_replicate (List.dropLast_subset _ hpart)]
    exact Nat.one_pos
  have hmap : parts.map Prod.fst = List.replicate 128 ['x'] := List.map_replicate
  have hline : tokenize line = .ok (List.replicate 128 ['x']) :=
    hmap ▸ hlayout 0 parts hlength hword hgaps
  have hconsists : ConsistsOf (List.replicate 128 ['x']) line :=
    ⟨by simpa using hx, 0, parts, hmap, hgaps, rfl⟩
  have hy : ConsistsOf [['y']] ['y'] := by
    refine ⟨by simp [IsWord, notBlank], 0, [(['y'], 0)], rfl, ?_, rfl⟩
    simp [KeptApart]
  refine ⟨⟨hlength, hword, hgaps, hconsists, hy⟩, hline, ?_⟩
  rw [happend line ['y'] _ _ hconsists hy, List.length_replicate]
  rfl

end LineShell
