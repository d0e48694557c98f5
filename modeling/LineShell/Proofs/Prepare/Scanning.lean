import LineShell.Proofs.Prepare.Equations

/-! # Scanning every line

A line without references is taken as it is, whatever its length. To scan such a line would reject it
if it is long, and that is the only difference. Preparation does not see it, since it rejects long
lines before it expands them. -/

namespace LineShell

theorem prepareWith_expand (store : Store) (line : Text) :
    prepareWith (expand store) line = prepare store line := rfl

/-- Expansions that differ in their records, or on lines that are too long anyway, prepare a line to
the same words. -/
theorem prepareWith_congr {f g : Text → Option Text × List Event} {line : Text}
    (h : line.size ≤ maxLine → (f line).1 = (g line).1) :
    (prepareWith f line).1 = (prepareWith g line).1 := by
  rw [prepareWith, prepareWith]
  by_cases hsize : line.size > maxLine
  · rw [if_pos hsize, if_pos hsize]
  · rw [if_neg hsize, if_neg hsize]
    have hsame := h (Nat.le_of_not_lt hsize)
    generalize f line = x at hsame
    generalize g line = y at hsame
    obtain ⟨result, events⟩ := x
    obtain ⟨result', events'⟩ := y
    obtain rfl : result = result' := hsame
    cases result with
    | none => rfl
    | some expanded =>
        dsimp only
        cases tokenize expanded <;> rfl

/-- Lines on which it makes no difference whether they are scanned. -/
theorem scan_eq_expand_iff {store : Store} {line : Text} :
    (scan store line).1 = (expand store line).1 ↔ '$' ∈ line ∨ line.size ≤ maxLine := by
  by_cases hdollar : '$' ∈ line
  · rw [expand_of_mem store hdollar]
    exact iff_of_true rfl (.inl hdollar)
  · rw [scan_result, expand_of_not_mem store hdollar, Text.substitute_of_not_mem _ hdollar]
    by_cases hsize : line.size ≤ maxLine
    · rw [if_pos hsize]
      exact iff_of_true rfl (.inr hsize)
    · rw [if_neg hsize]
      simp [hdollar, hsize]

/-- To scan a line gives the same as to expand it just if there is a `$` in the line or it takes at most
1023 bytes. Preparation gives the same words or the same error for every line, whether it expands the
line or scans it. -/
theorem scanning_spec :
    (∀ store line, (scan store line).1 = (expand store line).1 ↔ '$' ∈ line ∨ line.size ≤ 1023) ∧
    (∀ store line, prepareWith (expand store) line = prepare store line) ∧
    ∀ store line, (prepareWith (scan store) line).1 = (prepare store line).1 := by
  refine ⟨fun store line => scan_eq_expand_iff, prepareWith_expand, ?_⟩
  intro store line
  rw [← prepareWith_expand]
  exact prepareWith_congr fun hsize => scan_eq_expand_iff.mpr (.inr hsize)

end LineShell
