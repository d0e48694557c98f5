import LineShell.Loop
import LineShell.Proofs.Input.Readings
import LineShell.Proofs.Session.Actions

/-! # Equations of the loop

The loop asks its source for a line. Either the answer ends the loop, or the loop goes on in the
state that the answer leads to. Which of them it is can be told from the answer alone. -/

namespace LineShell

/-- The answers that end the loop: a line that is exactly `exit` or `quit`, the end of input, and a
failure of the source. -/
def EndsLoop : Except InputError Reply → Prop
  | .ok (.line text) => text = "exit".toList ∨ text = "quit".toList
  | .ok .interrupted => False
  | .ok .eof | .error _ => True

section
variable {Files Dir α : Type} (report : LineError → Action) {o : Outcome Files Dir α}

/-- The actions of a line and, if it failed, the report on it. -/
def Outcome.reported (o : Outcome Files Dir α) : List Action :=
  o.actions ++ o.error?.toList.map report

theorem Outcome.reported_of_ok {a : α} (h : o.result = .ok a) : o.reported report = o.actions := by
  rw [reported, error?, h]
  exact List.append_nil _

theorem Outcome.reported_of_error {e : LineError} (h : o.result = .error e) :
    o.reported report = o.actions ++ [report e] := by
  rw [reported, error?, h]
  rfl

end

theorem Settings.isReport_report (settings : Settings) (e : LineError) :
    (settings.report e).isReport := by
  rw [report]
  split <;> rfl

/-- The last record of the loop, unless its source failed. -/
def closing : Except InputError Reply → List Action
  | .ok _ => [.log .leaving]
  | .error _ => []

namespace Shell

variable {Files Dir σ : Type} [Host Files Dir]

/-! ## One line -/

/-- Whether a line asks for the end is decided by its raw text. -/
theorem flow_eq_exit_iff {sh : Shell Files Dir} {line : Text} {flow : Flow}
    (h : (sh.processLine line).result = .ok flow) : flow = .exit ↔ isExit line := by
  by_cases hexit : isExit line
  · rw [processLine_of_isExit hexit] at h
    simp [hexit, ← Except.ok.inj h]
  · cases hp : (prepare sh.store line).1 with
    | error e =>
        rw [processLine_of_error hexit hp] at h
        cases h
    | ok words =>
        rw [processLine_of_ok hexit hp] at h
        dsimp only at h
        cases hd : (sh.dispatch words).result with
        | error e =>
            rw [hd] at h
            cases h
        | ok done =>
            rw [hd] at h
            have hflow : Flow.goOn = flow := Except.ok.inj h
            simp [hexit, ← hflow]

/-! ## One answer -/

/-- The state that an answer leads to. -/
def afterReading (sh : Shell Files Dir) (r : Reading σ) : Shell Files Dir :=
  sh.session r.line?.toList

/-- What the loop does at an answer that does not end it: it has asked for the answer, and it runs
the line, if there is one, and reports its error, if there is one. -/
def readingActions (report : LineError → Action) (sh : Shell Files Dir) (r : Reading σ) :
    List Action :=
  .ask prompt r.written :: (sh.outcomes r.line?.toList).flatMap (Outcome.reported report)

section
variable (report : LineError → Action) (sh : Shell Files Dir) {r : Reading σ}

theorem afterReading_of_interrupted (h : r.reply = .ok .interrupted) : sh.afterReading r = sh := by
  rw [afterReading, Reading.line?_of_interrupted h]
  rfl

theorem afterReading_of_line {text : Text} (h : r.reply = .ok (.line text)) :
    sh.afterReading r = (sh.processLine text).shell := by
  rw [afterReading, Reading.line?_of_line h]
  rfl

theorem readingActions_of_interrupted (h : r.reply = .ok .interrupted) :
    sh.readingActions report r = [.ask prompt r.written] := by
  rw [readingActions, Reading.line?_of_interrupted h]
  rfl

theorem readingActions_of_line {text : Text} (h : r.reply = .ok (.line text)) :
    sh.readingActions report r = .ask prompt r.written :: (sh.processLine text).reported report := by
  rw [readingActions, Reading.line?_of_line h]
  simp [outcomes]

end

variable [LineSource σ]

/-- The loop is over after an answer that ends it. -/
theorem run_of_endsLoop (settings : Settings) (sh : Shell Files Dir) {source : σ}
    {r : Reading σ} (hread : LineSource.read prompt source = r) (h : EndsLoop r.reply) :
    sh.run settings source =
      ⟨r.reply.map fun _ => (), sh, r.source, .ask prompt r.written :: closing r.reply⟩ := by
  subst hread
  fun_cases run settings sh source with
  | case1 reading asked e hreply =>
      rw [hreply]
      rfl
  | case2 reading asked hreply =>
      rw [hreply]
      rfl
  | case3 reading asked hreply =>
      rw [hreply] at h
      exact h.elim
  | case4 reading asked text hreply hsize o hflow =>
      have hexit : isExit text := (flow_eq_exit_iff hflow).mp rfl
      have ho : o = ⟨.ok .exit, sh, []⟩ := processLine_of_isExit hexit
      rw [hreply, ho]
      rfl
  | case5 reading asked text hreply hsize o hflow =>
      rw [hreply] at h
      cases (flow_eq_exit_iff hflow).mpr (isExit_iff.mpr h)
  | case6 reading asked text hreply hsize o e hfailed =>
      rw [hreply] at h
      have ho : o = ⟨.ok .exit, sh, []⟩ := processLine_of_isExit (isExit_iff.mpr h)
      rw [ho] at hfailed
      cases hfailed

/-- The loop goes on after an answer that does not end it. -/
theorem run_of_not_endsLoop (settings : Settings) (sh : Shell Files Dir) {source : σ}
    {r : Reading σ} (hread : LineSource.read prompt source = r) (h : ¬ EndsLoop r.reply) :
    sh.run settings source =
      ((sh.afterReading r).run settings r.source).after (sh.readingActions settings.report r) := by
  subst hread
  fun_cases run settings sh source with
  | case1 reading asked e hreply =>
      rw [hreply] at h
      exact absurd trivial h
  | case2 reading asked hreply =>
      rw [hreply] at h
      exact absurd trivial h
  | case3 reading asked hreply =>
      rw [sh.afterReading_of_interrupted hreply, sh.readingActions_of_interrupted _ hreply]
  | case4 reading asked text hreply hsize o hflow =>
      rw [hreply] at h
      exact absurd (isExit_iff.mp ((flow_eq_exit_iff hflow).mp rfl)) h
  | case5 reading asked text hreply hsize o hflow =>
      rw [sh.afterReading_of_line hreply, sh.readingActions_of_line _ hreply,
        Outcome.reported_of_ok _ hflow]
  | case6 reading asked text hreply hsize o e hfailed =>
      rw [sh.afterReading_of_line hreply, sh.readingActions_of_line _ hreply,
        Outcome.reported_of_error _ hfailed, List.cons_append]

end Shell

end LineShell
