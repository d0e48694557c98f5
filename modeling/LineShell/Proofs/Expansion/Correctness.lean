import LineShell.Expansion
import LineShell.Proofs.Expansion.Decomposition

/-! # Correctness of expansion

Expansion gives the line with each reference replaced by its value, or fails if that text is too
long. The check at every step comes to the same as one check at the end, because a text only grows
while it is filled. -/

namespace LineShell

/-- The text that stands for a variable: its value, or nothing if it is unbound. -/
def Store.value (s : Store) (name : Text) : Text := (s.get? name).getD []

/-- The text of a piece with a text in place of each reference. -/
def Piece.value (value : Text → Text) : Piece → Text
  | literal text => text
  | reference name => value name

namespace Text

/-- A line with a text in place of each reference, of whatever length. -/
def substitute (value : Text → Text) (t : Text) : Text := t.decompose.render value

theorem flatMap_value_pieces (value : Text → Text) (t : Text) :
    t.pieces.flatMap (Piece.value value) = t.substitute value := by
  rw [pieces_eq_decompose, substitute, Decomposition.pieces, Decomposition.render,
    List.flatMap_cons, List.flatMap_assoc]
  simp [Piece.value]

theorem substitute_of_not_mem (value : Text → Text) {t : Text} (h : '$' ∉ t) :
    t.substitute value = t := by
  rw [substitute, decompose_of_not_mem h, Decomposition.render_nil]

theorem substitute_reference (value : Text → Text) {name : Text}
    (h : ∀ c ∈ name, isNameChar c) : substitute value ('$' :: name) = value name := by
  have hd := decompose_reference (t := []) h (by simp)
  rw [List.append_nil] at hd
  rw [substitute, hd, decompose_nil, Decomposition.render_cons, Decomposition.render_nil,
    List.append_nil, List.nil_append]

/-- Nothing but values can bring a `$` into the line. -/
theorem dollar_not_mem_substitute {value : Text → Text} (hvalue : ∀ name, '$' ∉ value name)
    (t : Text) : '$' ∉ t.substitute value := by
  have hmax := isMaximal_decompose t
  intro h
  rcases List.mem_append.mp h with h | h
  · exact hmax.front h
  · obtain ⟨r, hr, h⟩ := List.mem_flatMap.mp h
    rcases List.mem_append.mp h with h | h
    · exact hvalue r.name h
    · exact hmax.literal r hr h

end Text

/-! ## Filling -/

/-- The text that a piece adds to a line; an unbound reference adds none. -/
def Piece.text? (store : Store) : Piece → Option Text
  | literal text => some text
  | reference name => store.get? name

theorem Piece.value_eq_getD (store : Store) (piece : Piece) :
    piece.value store.value = (piece.text? store).getD [] := by
  cases piece <;> rfl

section
variable {store : Store} {piece : Piece} {buffer text : Text}

theorem fill_of_unbound (h : piece.text? store = none) (rest : List Piece) :
    (fill store buffer (piece :: rest)).1 = (fill store buffer rest).1 := by
  cases piece with
  | literal text => cases h
  | reference name =>
      have hget : store.get? name = none := h
      simp only [fill, hget]

theorem fill_of_fits (h : piece.text? store = some text) (hfit : buffer.size + text.size ≤ maxLine)
    (rest : List Piece) : fill store buffer (piece :: rest) = fill store (buffer ++ text) rest := by
  have hpush : push? buffer text = some (buffer ++ text) := push?_eq_some_iff.mpr ⟨rfl, hfit⟩
  cases piece with
  | literal literal =>
      obtain rfl : literal = text := Option.some.inj h
      simp only [fill, hpush]
  | reference name =>
      have hget : store.get? name = some text := h
      simp only [fill, hget, hpush]

theorem fill_of_outgrows (h : piece.text? store = some text)
    (hfit : ¬ buffer.size + text.size ≤ maxLine) (rest : List Piece) :
    fill store buffer (piece :: rest) = (none, []) := by
  have hpush : push? buffer text = none := if_neg hfit
  cases piece with
  | literal literal =>
      obtain rfl : literal = text := Option.some.inj h
      simp only [fill, hpush]
  | reference name =>
      have hget : store.get? name = some text := h
      simp only [fill, hget, hpush]

end

/-- A text that is filled within the limit is the buffer with all pieces; otherwise it is rejected,
at whichever piece it outgrew the limit. -/
theorem fill_result (store : Store) {buffer : Text} (h : buffer.size ≤ maxLine)
    (pieces : List Piece) :
    (fill store buffer pieces).1 =
      if (buffer ++ pieces.flatMap (Piece.value store.value)).size ≤ maxLine then
        some (buffer ++ pieces.flatMap (Piece.value store.value))
      else none := by
  induction pieces generalizing buffer with
  | nil => simpa [fill] using h
  | cons piece rest ih =>
      rw [List.flatMap_cons, Piece.value_eq_getD]
      cases htext : piece.text? store with
      | none =>
          rw [fill_of_unbound htext, ih h, Option.getD_none, List.nil_append]
      | some text =>
          rw [Option.getD_some, ← List.append_assoc]
          by_cases hfit : buffer.size + text.size ≤ maxLine
          · rw [fill_of_fits htext hfit, ih (by rwa [Text.size_append])]
          · -- The pieces behind a text that is too long cannot make it shorter.
            have hlong : ¬ (buffer ++ text ++ rest.flatMap (Piece.value store.value)).size ≤
                maxLine := by
              rw [Text.size_append, Text.size_append]
              omega
            rw [fill_of_outgrows htext hfit, if_neg hlong]

/-! ## Scanning -/

/-- A scanned line is substitution, unless it becomes too long. -/
theorem scan_result (store : Store) (line : Text) :
    (scan store line).1 =
      if (line.substitute store.value).size ≤ maxLine then some (line.substitute store.value)
      else none := by
  have hempty : Text.size [] ≤ maxLine := Nat.zero_le maxLine
  have hfill := fill_result store hempty line.pieces
  rw [List.nil_append, Text.flatMap_value_pieces] at hfill
  have hscan : (scan store line).1 = (fill store [] line.pieces).1 := by
    rw [scan]
    rcases fill store [] line.pieces with ⟨_ | result, events⟩ <;> rfl
  rw [hscan, hfill]

theorem expand_of_mem (store : Store) {line : Text} (h : '$' ∈ line) :
    expand store line = scan store line := by
  rw [expand, if_pos h]

theorem expand_of_not_mem (store : Store) {line : Text} (h : '$' ∉ line) :
    expand store line = (some line, []) := by
  rw [expand, if_neg h]

/-- Expansion is substitution, except that a line with references in it may not become too long. -/
theorem expand_result (store : Store) (line : Text) :
    (expand store line).1 =
      if '$' ∈ line ∧ maxLine < (line.substitute store.value).size then none
      else some (line.substitute store.value) := by
  by_cases h : '$' ∈ line
  · rw [expand_of_mem store h, scan_result]
    by_cases hsize : (line.substitute store.value).size ≤ maxLine
    · rw [if_pos hsize, if_neg (fun hn => Nat.not_lt.mpr hsize hn.2)]
    · rw [if_neg hsize, if_pos ⟨h, Nat.lt_of_not_ge hsize⟩]
  · rw [expand_of_not_mem store h, if_neg (fun hn => h hn.1), Text.substitute_of_not_mem _ h]

theorem expand_eq_some_iff {store : Store} {line result : Text} :
    (expand store line).1 = some result ↔
      line.substitute store.value = result ∧ ('$' ∈ line → result.size ≤ maxLine) := by
  rw [expand_result]
  split
  · rename_i h
    simp only [reduceCtorEq, false_iff, not_and]
    rintro rfl hfits
    exact Nat.not_le.mpr h.2 (hfits h.1)
  · rename_i h
    rw [Option.some_inj]
    refine ⟨?_, And.left⟩
    rintro rfl
    exact ⟨rfl, fun hdollar => Nat.le_of_not_lt fun hlong => h ⟨hdollar, hlong⟩⟩

theorem expand_eq_none_iff {store : Store} {line : Text} :
    (expand store line).1 = none ↔
      '$' ∈ line ∧ maxLine < (line.substitute store.value).size := by
  rw [expand_result]
  split <;> simp_all

/-- Every line has one maximal decomposition. Expansion puts the values of its references in their
places, where values are not looked at again and an unbound name stands for nothing, and fails
exactly if the whole text takes more than 1023 bytes. A line without `$` is left as it is. -/
theorem expand_spec (store : Store) (line : Text) :
    ∃ d : Decomposition, d.source = line ∧ d.IsMaximal ∧
      (∀ e : Decomposition, e.source = line → e.IsMaximal → e = d) ∧
      (expand store line).1 =
        if '$' ∈ line then
          if (d.render fun name => (store.get? name).getD []).size ≤ 1023 then
            some (d.render fun name => (store.get? name).getD [])
          else none
        else some line := by
  refine ⟨line.decompose, Text.source_decompose line, Text.isMaximal_decompose line, ?_, ?_⟩
  · intro e hsource hmax
    rw [← hsource, hmax.decompose_source]
  · rw [expand_result]
    by_cases h : '$' ∈ line
    · rw [if_pos h]
      by_cases hsize : (line.substitute store.value).size ≤ 1023
      · exact (if_neg fun hn => Nat.not_lt.mpr hsize hn.2).trans (if_pos hsize).symm
      · exact (if_pos ⟨h, Nat.lt_of_not_ge hsize⟩).trans (if_neg hsize).symm
    · rw [if_neg h, if_neg fun hn => h hn.1, Text.substitute_of_not_mem _ h]

end LineShell
