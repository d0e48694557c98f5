import LineShell.Loop
import LineShell.Proofs.Prepare.Equations
import LineShell.Proofs.Session.Semantics

/-! # Sessions

A session gives lines to the interpreter one after another. What it does to the variables is decided
by the lines alone: no answer of the system takes part in it. -/

namespace LineShell

theorem isExit_iff {line : Text} : isExit line ↔ line = "exit".toList ∨ line = "quit".toList := by
  rw [isExit, Bool.or_eq_true, beq_iff_eq, beq_iff_eq]

/-- Taken as a command, a line that asks for the end would be one word. -/
theorem prepare_of_isExit (s : Store) {line : Text} (h : isExit line) :
    (prepare s line).1 = .ok [line] := by
  have hword : ∀ w ∈ [line], Text.IsWord w := by
    rcases isExit_iff.mp h with rfl | rfl <;> simp [Text.IsWord, Text.notBlank]
  have hdollar : ∀ w ∈ [line], '$' ∉ w := by
    rcases isExit_iff.mp h with rfl | rfl <;> simp
  have hsize : (Text.unwords [line]).size ≤ maxLine := by
    rcases isExit_iff.mp h with rfl | rfl <;> decide
  exact prepare_unwords s hword hdollar hsize (Nat.succ_le_of_lt (by decide))

/-- What a line does to the variables. -/
def Store.afterLine (s : Store) (line : Text) : Store :=
  if isExit line then s
  else
    match (prepare s line).1 with
    | .error _ => s
    | .ok words => s.update words

theorem Store.afterLine_of_ok {s : Store} {line : Text} {words : List Text}
    (hexit : isExit line = false) (h : (prepare s line).1 = .ok words) :
    s.afterLine line = s.update words := by
  simp [afterLine, hexit, h]

namespace Shell

variable {Files Dir : Type} [Host Files Dir]

/-! ## One line -/

section
variable {sh : Shell Files Dir} {line : Text}

theorem processLine_of_isExit (hexit : isExit line) : sh.processLine line = ⟨.ok .exit, sh, []⟩ := by
  rw [processLine, if_pos hexit]

theorem processLine_of_error (hexit : ¬ isExit line) {e : LineError}
    (h : (prepare sh.store line).1 = .error e) :
    sh.processLine line = ⟨.error e, sh, (prepare sh.store line).2.map .log⟩ := by
  rw [processLine, if_neg hexit]
  rcases hp : prepare sh.store line with ⟨result, events⟩
  obtain rfl : result = .error e := by rw [← h, hp]
  rfl

theorem processLine_of_ok (hexit : ¬ isExit line) {words : List Text}
    (h : (prepare sh.store line).1 = .ok words) :
    sh.processLine line =
      ⟨(sh.dispatch words).result.map fun _ => .goOn, (sh.dispatch words).shell,
        (prepare sh.store line).2.map .log ++ (sh.dispatch words).actions⟩ := by
  rw [processLine, if_neg hexit]
  rcases hp : prepare sh.store line with ⟨result, events⟩
  obtain rfl : result = .ok words := by rw [← h, hp]
  rfl

/-- A line that runs a program has been prepared to its words. -/
theorem prepare_of_ran_mem {program : Text} {args : List Text} {writes : List Write}
    (h : .ran program args writes ∈ (sh.processLine line).actions) :
    (prepare sh.store line).1 = .ok (program :: args) := by
  by_cases hexit : isExit line
  · rw [processLine_of_isExit hexit] at h
    cases h
  · cases hp : (prepare sh.store line).1 with
    | error e =>
        rw [processLine_of_error hexit hp] at h
        simp at h
    | ok words =>
        rw [processLine_of_ok hexit hp] at h
        have hran : .ran program args writes ∈ (sh.dispatch words).actions := by simpa using h
        rw [eq_of_ran_mem_dispatch hran]

end

theorem store_processLine (sh : Shell Files Dir) (line : Text) :
    (sh.processLine line).shell.store = sh.store.afterLine line := by
  rw [Store.afterLine]
  by_cases hexit : isExit line
  · rw [if_pos hexit, processLine_of_isExit hexit]
  · rw [if_neg hexit]
    cases hp : (prepare sh.store line).1 with
    | error e => rw [processLine_of_error hexit hp]
    | ok words =>
        rw [processLine_of_ok hexit hp]
        exact store_dispatch sh words

/-! ## Lines in order -/

/-- The state after lines that are run in order, whether they fail or not. -/
def session (sh : Shell Files Dir) (lines : List Text) : Shell Files Dir :=
  lines.foldl (fun sh line => (sh.processLine line).shell) sh

theorem session_cons (sh : Shell Files Dir) (line : Text) (lines : List Text) :
    sh.session (line :: lines) = (sh.processLine line).shell.session lines := rfl

/-- The variables after a session, from the lines alone. -/
theorem store_session (sh : Shell Files Dir) (lines : List Text) :
    (sh.session lines).store = lines.foldl Store.afterLine sh.store := by
  induction lines generalizing sh with
  | nil => rfl
  | cons line lines ih => rw [session_cons, ih, store_processLine, List.foldl_cons]

end Shell

end LineShell
