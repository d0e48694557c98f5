import LineShell.Proofs.Prepare.Equations

/-! # Preparation word by word

Preparation works on whole lines. It does the same as expanding the words of the raw line one by
one, with the limits checked at the end. -/

namespace LineShell

open Text

/-- Preparation word by word: each run of the raw line without a blank is expanded on its own,
without a limit, and cut at its blanks. The limits are held to in order: bytes of the raw line,
bytes of the expanded runs and of the blanks of the raw line, runs after expansion. -/
def prepareByRuns (store : Store) (line : Text) : Except LineError (List Text) :=
  let expanded := (runs line).map fun w => w.substitute fun name => (store.get? name).getD []
  if 1024 ≤ line.size then .error .inputTooLong
  else if 1024 ≤ line.count ' ' + (expanded.map size).sum then .error .lineTooLong
  else if 128 < (expanded.flatMap runs).length then .error .tooManyWords
  else .ok (expanded.flatMap runs)

/-- Preparation of a line agrees with preparation of its words, in every error too. -/
theorem prepare_eq_prepareByRuns (store : Store) (line : Text) :
    (prepare store line).1 = prepareByRuns store line := by
  rw [prepare_result, prepareByRuns, tokenize_eq, size_substitute, words_substitute]
  simp only [List.map_map, List.flatMap_map, words_eq_runs]
  rfl

end LineShell
