import LineShell.Prepare
import LineShell.Proofs.Expansion.Concatenation

/-! # Equations of preparation -/

namespace LineShell

open Text

theorem tokenize_eq (line : Text) :
    tokenize line =
      if maxWords < (words line).length then .error .tooManyWords else .ok (words line) := by
  by_cases h : (words line).length ≤ maxWords
  · rw [tokenize, if_pos h, if_neg (Nat.not_lt.mpr h)]
  · rw [tokenize, if_neg h, if_pos (Nat.lt_of_not_ge h)]

/-- What preparation answers, said without the early ends of expansion. -/
theorem prepare_result (store : Store) (line : Text) :
    (prepare store line).1 =
      if maxLine < line.size then .error .inputTooLong
      else if maxLine < (line.substitute store.value).size then .error .lineTooLong
      else tokenize (line.substitute store.value) := by
  by_cases hline : maxLine < line.size
  · rw [prepare, prepareWith, if_pos hline, if_pos hline]
  · rw [prepare, prepareWith, if_neg hline, if_neg hline]
    have hexpand := expand_result store line
    by_cases hsize : maxLine < (line.substitute store.value).size
    · -- A line without references is no longer after expansion, and it was measured before.
      have hdollar : '$' ∈ line := by
        by_contra h
        rw [substitute_of_not_mem _ h] at hsize
        exact hline hsize
      rw [if_pos ⟨hdollar, hsize⟩] at hexpand
      rcases hpair : expand store line with ⟨result, events⟩
      rw [hpair] at hexpand
      obtain rfl : result = none := hexpand
      rw [if_pos hsize]
    · rw [if_neg fun h => hsize h.2] at hexpand
      rcases hpair : expand store line with ⟨result, events⟩
      rw [hpair] at hexpand
      obtain rfl : result = some (line.substitute store.value) := hexpand
      rw [if_neg hsize]
      dsimp only
      cases tokenize (line.substitute store.value) with
      | error e => rfl
      | ok words => rfl

/-- A line is prepared if it is short enough before and after expansion and has few enough words. -/
theorem prepare_eq_ok_iff {store : Store} {line : Text} {ws : List Text} :
    (prepare store line).1 = .ok ws ↔
      line.size ≤ maxLine ∧ (line.substitute store.value).size ≤ maxLine ∧
        words (line.substitute store.value) = ws ∧ ws.length ≤ maxWords := by
  rw [prepare_result, tokenize_eq]
  constructor
  · intro h
    split at h
    · cases h
    · split at h
      · cases h
      · split at h
        · cases h
        · rename_i hline hsize hwords
          obtain rfl := Except.ok.inj h
          exact ⟨Nat.le_of_not_lt hline, Nat.le_of_not_lt hsize, rfl, Nat.le_of_not_lt hwords⟩
  · rintro ⟨hline, hsize, rfl, hwords⟩
    rw [if_neg (Nat.not_lt.mpr hline), if_neg (Nat.not_lt.mpr hsize),
      if_neg (Nat.not_lt.mpr hwords)]

/-- A line that is prepared leaves the records of its expansion, and one of its words. -/
theorem events_of_prepare {store : Store} {line : Text} {ws : List Text}
    (h : (prepare store line).1 = .ok ws) :
    (prepare store line).2 = (expand store line).2 ++ [.tokens ws] := by
  obtain ⟨hline, -, -, -⟩ := prepare_eq_ok_iff.mp h
  rw [prepare, prepareWith, if_neg (Nat.not_lt.mpr hline)] at h ⊢
  generalize expand store line = expansion at h ⊢
  obtain ⟨_ | expanded, events⟩ := expansion
  · cases h
  · dsimp only at h ⊢
    generalize tokenize expanded = tokens at h ⊢
    cases tokens with
    | error e => cases h
    | ok words =>
        have hwords : words = ws := Except.ok.inj h
        rw [hwords]

/-- The words of a prepared line are no longer than the line after expansion, blanks included. -/
theorem size_unwords_of_prepare {store : Store} {line : Text} {ws : List Text}
    (h : (prepare store line).1 = .ok ws) : size (unwords ws) ≤ maxLine := by
  obtain ⟨-, hsize, rfl, -⟩ := prepare_eq_ok_iff.mp h
  exact (size_unwords_words_le _).trans hsize

/-- Words without references are prepared as they are, whatever blanks are between them. -/
theorem prepare_spaced (store : Store) {ws : List Text} {line : Text} (h : Spaced ws line)
    (hword : ∀ w ∈ ws, IsWord w) (hdollar : ∀ w ∈ ws, '$' ∉ w) (hsize : size line ≤ maxLine)
    (hlength : ws.length ≤ maxWords) : (prepare store line).1 = .ok ws := by
  rw [prepare_eq_ok_iff, substitute_of_not_mem _ (h.dollar_not_mem hdollar)]
  exact ⟨hsize, hsize, h.words_eq hword, hlength⟩

theorem prepare_unwords (store : Store) {ws : List Text} (hword : ∀ w ∈ ws, IsWord w)
    (hdollar : ∀ w ∈ ws, '$' ∉ w) (hsize : size (unwords ws) ≤ maxLine)
    (hlength : ws.length ≤ maxWords) : (prepare store (unwords ws)).1 = .ok ws :=
  prepare_spaced store (spaced_unwords ws) hword hdollar hsize hlength

/-- A reference behind words gives way to the words of its value. -/
theorem prepare_reference {store : Store} {front ws : List Text} {name : Text}
    (hword : ∀ w ∈ front, IsWord w) (hdollar : ∀ w ∈ front, '$' ∉ w)
    (hname : ∀ c ∈ name, isNameChar c) (hvalue : store.value name = unwords ws)
    (hws : ∀ w ∈ ws, IsWord w) (hline : size (unwords (front ++ ['$' :: name])) ≤ maxLine)
    (hsize : size (unwords (front ++ [unwords ws])) ≤ maxLine)
    (hlength : (front ++ ws).length ≤ maxWords) :
    (prepare store (unwords (front ++ ['$' :: name]))).1 = .ok (front ++ ws) := by
  have hfront : front.map (substitute store.value) = front := by
    conv => rhs; rw [← List.map_id front]
    exact List.map_congr_left fun w hw => substitute_of_not_mem _ (hdollar w hw)
  have hexpanded : (unwords (front ++ ['$' :: name])).substitute store.value =
      unwords (front ++ [unwords ws]) := by
    rw [substitute_unwords, List.map_append, hfront, List.map_singleton,
      substitute_reference _ hname, hvalue]
  rw [prepare_eq_ok_iff, hexpanded, (spaced_unwords _).words_eq_flatMap, List.flatMap_append,
    flatMap_words hword, List.flatMap_singleton, words_unwords hws]
  exact ⟨hline, hsize, rfl, hlength⟩

end LineShell
