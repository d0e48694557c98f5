import LineShell.Proofs.Session.Reachability

/-! # What a session hands to its commands

In every reachable state the words of a command are plain, and they are few and short enough to stand
in a line. Since no value holds a `$`, nothing is left to expand after expansion. -/

namespace LineShell

open Text

namespace Store.WellFormed

variable {s : Store}

/-- A line that has been expanded holds no `$`. -/
theorem dollar_not_mem_of_expand (hs : s.WellFormed) {line result : Text}
    (h : (expand s line).1 = some result) : '$' ∉ result := by
  rw [expand_result] at h
  split at h
  · cases h
  · rw [← Option.some.inj h]
    exact dollar_not_mem_substitute hs.dollar_not_mem_value line

/-- Expansion has nothing more to do with its own result. -/
theorem expand_of_expand (hs : s.WellFormed) {line result : Text}
    (h : (expand s line).1 = some result) : (expand s result).1 = some result := by
  rw [expand_of_not_mem s (hs.dollar_not_mem_of_expand h)]

end Store.WellFormed

/-- After any lines, the words that a line is prepared to are at most 128, none of them is empty or
holds a blank or a `$`, and with one blank between neighbours they take at most 1023 bytes. So a
program is never given any other words, and expansion is idempotent. -/
theorem session_words_spec {Files Dir : Type} [Host Files Dir] (files : Files) (dir : Dir)
    (environment : Environment) (lines : List Text) (line : Text) :
    let sh := (Shell.start files dir environment).session lines
    (∀ words, (prepare sh.store line).1 = .ok words →
      words.length ≤ 128 ∧ (∀ w ∈ words, w ≠ [] ∧ ' ' ∉ w ∧ '$' ∉ w) ∧
        (words.map size).sum + (words.length - 1) ≤ 1023) ∧
    (∀ program args writes, .ran program args writes ∈ (sh.processLine line).actions →
      ∀ arg ∈ program :: args, arg ≠ [] ∧ ' ' ∉ arg ∧ '$' ∉ arg) ∧
    (∀ result, (expand sh.store line).1 = some result →
      (expand sh.store result).1 = some result) := by
  intro sh
  have hs : sh.store.WellFormed := Shell.wellFormed_session files dir environment lines
  have hplain : ∀ words, (prepare sh.store line).1 = .ok words →
      ∀ w ∈ words, w ≠ [] ∧ ' ' ∉ w ∧ '$' ∉ w := by
    intro words h w hw
    obtain ⟨hword, hdollar⟩ := hs.isPlain_of_prepare h w hw
    exact ⟨hword.1, hword.blank_not_mem, hdollar⟩
  refine ⟨?_, ?_, ?_⟩
  · intro words h
    have hsize := size_unwords_of_prepare h
    rw [size_unwords] at hsize
    exact ⟨(prepare_eq_ok_iff.mp h).2.2.2, hplain words h, hsize⟩
  · intro program args writes h
    exact hplain _ (Shell.prepare_of_ran_mem h)
  · intro result h
    exact hs.expand_of_expand h

end LineShell
