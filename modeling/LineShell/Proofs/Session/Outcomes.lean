import LineShell.Proofs.Session.Equations

/-! # What a session shows

A session is seen through the outcomes of its lines: their results, the states they leave and what
they write. A line that fails has no part in what is seen, so a session may be run without the lines
that fail in it. The exception is a line whose program ran, though the system could not tell how it
ended. -/

namespace LineShell

/-- What gives nothing can be left out before all results are joined. -/
theorem flatMap_filter_of_nil {α β : Type} {p : α → Bool} {f : α → List β} {l : List α}
    (h : ∀ a ∈ l, ¬ p a → f a = []) : (l.filter p).flatMap f = l.flatMap f := by
  induction l with
  | nil => rfl
  | cons a l ih =>
      obtain ⟨ha, hl⟩ := List.forall_mem_cons.mp h
      rw [List.flatMap_cons, ← ih hl]
      by_cases hp : p a
      · rw [List.filter_cons_of_pos hp, List.flatMap_cons]
      · rw [List.filter_cons_of_neg hp, ha hp, List.nil_append]

/-- Records are no output. -/
theorem flatMap_records {output : Action → Bytes} (hlog : ∀ event, output (.log event) = [])
    (events : List Event) : (events.map Action.log).flatMap output = [] := by
  rw [List.flatMap_map]
  exact List.flatMap_eq_nil_iff.mpr fun event _ => hlog event

/-- Whether an error is that of waiting for a program, which has run by then. -/
def LineError.isWait : LineError → Bool
  | wait _ _ => true
  | _ => false

namespace Outcome

variable {Files Dir α : Type}

/-- What was written to standard output. -/
def stdout (o : Outcome Files Dir α) : Bytes := o.actions.flatMap Action.stdout

/-- What was written to the error stream. -/
def stderr (o : Outcome Files Dir α) : Bytes := o.actions.flatMap Action.stderr

/-- What went wrong. -/
def error? (o : Outcome Files Dir α) : Option LineError :=
  match o.result with
  | .ok _ => none
  | .error e => some e

/-- Whether all went well. -/
def succeeded (o : Outcome Files Dir α) : Bool := o.result.isOk

/-- Whether something went wrong before anything was done. -/
def rejected (o : Outcome Files Dir α) : Bool := o.error?.any (!·.isWait)

theorem rejected_iff {o : Outcome Files Dir α} :
    o.rejected ↔ ∃ e, o.result = .error e ∧ ¬ e.isWait := by
  rw [rejected, error?]
  cases o.result <;> simp

/-- Besides success and rejection there is only the failure to wait for a program. -/
theorem not_rejected_eq {o : Outcome Files Dir α}
    (h : ∀ program reason, o.result ≠ .error (.wait program reason)) :
    (!o.rejected) = o.succeeded := by
  rw [rejected, error?, succeeded]
  cases hresult : o.result with
  | ok a => rfl
  | error e =>
      cases e with
      | wait program reason => exact absurd hresult (h program reason)
      | _ => rfl

theorem flatMap_after_records (o : Outcome Files Dir α) {output : Action → Bytes}
    (hlog : ∀ event, output (.log event) = []) (events : List Event) :
    (o.after (events.map .log)).actions.flatMap output = o.actions.flatMap output := by
  rw [after, List.flatMap_append, flatMap_records hlog, List.nil_append]

end Outcome

namespace Shell

variable {Files Dir : Type} [Host Files Dir]

/-! ## A line that fails -/

/-- A command that fails can have changed files only. -/
theorem dispatch_of_error {sh : Shell Files Dir} {words : List Text} {e : LineError}
    (h : (sh.dispatch words).result = .error e) :
    (sh.dispatch words).shell = { sh with files := (sh.dispatch words).shell.files } := by
  have heffect := sh.effect_dispatch words
  generalize sh.dispatch words = o at h heffect
  cases heffect with
  | nothing | moved | printed | bound | removed | ran => cases h
  | failed | lost => rfl

/-- A command that is rejected leaves the state as it is, and leaves its record. -/
theorem dispatch_of_rejected {sh : Shell Files Dir} {words : List Text} {e : LineError}
    (h : (sh.dispatch words).result = .error e) (he : ¬ e.isWait) :
    (sh.dispatch words).shell = sh ∧ ∃ event, (sh.dispatch words).actions = [.log event] := by
  have heffect := sh.effect_dispatch words
  generalize sh.dispatch words = o at h heffect
  cases heffect with
  | nothing | moved | printed | bound | removed | ran => cases h
  | failed => exact ⟨rfl, _, rfl⟩
  | lost =>
      obtain rfl := Except.error.inj h
      exact absurd rfl he

/-- A line is rejected while it is prepared, or its command fails. -/
theorem exists_dispatch_of_error {sh : Shell Files Dir} {line : Text} {e : LineError}
    (h : (sh.processLine line).result = .error e) :
    (sh.processLine line).shell = sh ∧
        (sh.processLine line).actions = (prepare sh.store line).2.map .log ∨
      ∃ words, (sh.dispatch words).result = .error e ∧
        (sh.processLine line).shell = (sh.dispatch words).shell ∧
        (sh.processLine line).actions =
          (prepare sh.store line).2.map .log ++ (sh.dispatch words).actions := by
  by_cases hexit : isExit line
  · rw [processLine_of_isExit hexit] at h
    cases h
  · cases hp : (prepare sh.store line).1 with
    | error reason =>
        rw [processLine_of_error hexit hp]
        exact .inl ⟨rfl, rfl⟩
    | ok words =>
        rw [processLine_of_ok hexit hp] at h ⊢
        refine .inr ⟨words, ?_, rfl, rfl⟩
        cases hd : (sh.dispatch words).result with
        | ok done =>
            rw [hd] at h
            cases h
        | error reason =>
            rw [hd] at h
            exact congrArg Except.error (Except.error.inj h)

/-- A line that fails can have changed files only. -/
theorem processLine_of_failure {sh : Shell Files Dir} {line : Text} {e : LineError}
    (h : (sh.processLine line).result = .error e) :
    (sh.processLine line).shell = { sh with files := (sh.processLine line).shell.files } := by
  rcases exists_dispatch_of_error h with ⟨hshell, -⟩ | ⟨words, hd, hshell, -⟩
  · rw [hshell]
  · rw [hshell]
    exact dispatch_of_error hd

/-- A line that is rejected leaves the state as it is, and leaves records only. -/
theorem processLine_of_rejected {sh : Shell Files Dir} {line : Text} {e : LineError}
    (h : (sh.processLine line).result = .error e) (he : ¬ e.isWait) :
    (sh.processLine line).shell = sh ∧
      ∃ events : List Event, (sh.processLine line).actions = events.map .log := by
  rcases exists_dispatch_of_error h with ⟨hshell, hactions⟩ | ⟨words, hd, hshell, hactions⟩
  · exact ⟨hshell, _, hactions⟩
  · obtain ⟨hsame, event, hrecord⟩ := dispatch_of_rejected hd he
    refine ⟨hshell.trans hsame, (prepare sh.store line).2 ++ [event], ?_⟩
    rw [hactions, hrecord, List.map_append]
    rfl

theorem stdout_of_rejected {sh : Shell Files Dir} {line : Text} {e : LineError}
    (h : (sh.processLine line).result = .error e) (he : ¬ e.isWait) :
    (sh.processLine line).stdout = [] := by
  obtain ⟨-, events, hactions⟩ := processLine_of_rejected h he
  rw [Outcome.stdout, hactions, flatMap_records fun _ => rfl]

/-! ## Lines in order -/

/-- The outcome of each line when lines are run in order, whether they fail or not. -/
def outcomes (sh : Shell Files Dir) : List Text → List (Outcome Files Dir Flow)
  | [] => []
  | line :: lines => sh.processLine line :: (sh.processLine line).shell.outcomes lines

/-- Every outcome of a session is that of some line in some state. -/
theorem exists_of_mem_outcomes {sh : Shell Files Dir} {lines : List Text}
    {o : Outcome Files Dir Flow} (h : o ∈ sh.outcomes lines) :
    ∃ (sh' : Shell Files Dir) (line : Text), o = sh'.processLine line := by
  induction lines generalizing sh with
  | nil => cases h
  | cons line lines ih =>
      rcases List.mem_cons.mp h with rfl | h
      · exact ⟨sh, line, rfl⟩
      · exact ih h

/-- The lines of a session whose outcomes in it are to be kept. -/
def keeping (keep : Outcome Files Dir Flow → Bool) (sh : Shell Files Dir) (lines : List Text) :
    List Text :=
  ((lines.zip (sh.outcomes lines)).filter fun p => keep p.2).map Prod.fst

section
variable (keep : Outcome Files Dir Flow → Bool) {sh : Shell Files Dir} {line : Text}

theorem keeping_cons_of_pos (h : keep (sh.processLine line)) (lines : List Text) :
    sh.keeping keep (line :: lines) = line :: (sh.processLine line).shell.keeping keep lines := by
  rw [keeping, outcomes, List.zip_cons_cons, List.filter_cons, if_pos h]
  rfl

theorem keeping_cons_of_neg (h : ¬ keep (sh.processLine line)) (lines : List Text) :
    sh.keeping keep (line :: lines) = (sh.processLine line).shell.keeping keep lines := by
  rw [keeping, outcomes, List.zip_cons_cons, List.filter_cons, if_neg h]
  rfl

theorem keeping_congr {keep keep' : Outcome Files Dir Flow → Bool} {lines : List Text}
    (h : ∀ o ∈ sh.outcomes lines, keep o = keep' o) :
    sh.keeping keep lines = sh.keeping keep' lines := by
  rw [keeping, keeping, List.filter_congr fun p hp => h p.2 (List.of_mem_zip hp).2]

end

/-- A session may be run with some of its lines alone: it ends in the same state and writes the same, and
each of these lines has the outcome that it had. -/
structure Suffices (keep : Outcome Files Dir Flow → Bool) (sh : Shell Files Dir)
    (lines : List Text) : Prop where
  session : sh.session (sh.keeping keep lines) = sh.session lines
  outcomes : sh.outcomes (sh.keeping keep lines) = (sh.outcomes lines).filter keep
  stdout : (sh.outcomes (sh.keeping keep lines)).flatMap Outcome.stdout =
    (sh.outcomes lines).flatMap Outcome.stdout

theorem Suffices.congr {keep keep' : Outcome Files Dir Flow → Bool} {sh : Shell Files Dir}
    {lines : List Text} (h : sh.Suffices keep lines)
    (hkeep : ∀ o ∈ sh.outcomes lines, keep o = keep' o) : sh.Suffices keep' lines := by
  have hlines := keeping_congr hkeep
  exact ⟨hlines ▸ h.session, hlines ▸ h.outcomes.trans (List.filter_congr hkeep),
    hlines ▸ h.stdout⟩

/-- Lines that are rejected make no difference to those behind them. -/
theorem suffices_not_rejected (sh : Shell Files Dir) (lines : List Text) :
    sh.Suffices (!·.rejected) lines := by
  induction lines generalizing sh with
  | nil => exact ⟨rfl, rfl, rfl⟩
  | cons line lines ih =>
      obtain ⟨hsession, houtcomes, hstdout⟩ := ih (sh.processLine line).shell
      by_cases h : (sh.processLine line).rejected
      · obtain ⟨e, he, hwait⟩ := Outcome.rejected_iff.mp h
        have hkeep : ¬ (!(sh.processLine line).rejected) := by simp [h]
        have hlines := keeping_cons_of_neg (!·.rejected) hkeep lines
        -- The line hands on the state that it was given, so the rest is run as if it were not there.
        have hshell := (processLine_of_rejected he hwait).1
        rw [hshell] at hsession houtcomes hstdout hlines
        constructor
        · rw [hlines, hsession, session_cons, hshell]
        · rw [hlines, houtcomes, Shell.outcomes, List.filter_cons, if_neg hkeep, hshell]
        · rw [hlines, hstdout, Shell.outcomes, List.flatMap_cons, stdout_of_rejected he hwait, hshell]
          rfl
      · have hkeep : (!(sh.processLine line).rejected) := by simp [h]
        have hlines := keeping_cons_of_pos (!·.rejected) hkeep lines
        constructor
        · rw [hlines, session_cons, session_cons, hsession]
        · rw [hlines, Shell.outcomes, Shell.outcomes, List.filter_cons, if_pos hkeep, houtcomes]
        · rw [hlines, Shell.outcomes, Shell.outcomes, List.flatMap_cons, List.flatMap_cons, hstdout]

/-- A line that fails changes neither the variables nor the last status, the working directory or the
environment. Unless it fails in waiting for a program, it leaves the whole state as it is and writes
nothing to standard output. So a session without the lines that are rejected in it ends in the same state
and writes the same, and each of its lines has the outcome that it had. If no line fails in waiting,
these are just the lines that fail. -/
theorem failing_lines_leave_no_trace (sh : Shell Files Dir) :
    (∀ line e, (sh.processLine line).result = .error e →
      let after := (sh.processLine line).shell
      after.store = sh.store ∧ after.lastStatus = sh.lastStatus ∧ after.dir = sh.dir ∧
        after.environment = sh.environment ∧
        ((∀ program reason, e ≠ .wait program reason) →
          after = sh ∧ (sh.processLine line).stdout = [])) ∧
    (∀ lines, sh.Suffices (!·.rejected) lines) ∧
    ∀ lines, (∀ o ∈ sh.outcomes lines, ∀ program reason, o.result ≠ .error (.wait program reason)) →
      sh.Suffices Outcome.succeeded lines := by
  refine ⟨?_, sh.suffices_not_rejected, ?_⟩
  · intro line e h after
    have hafter : after = { sh with files := after.files } := processLine_of_failure h
    refine ⟨by rw [hafter], by rw [hafter], by rw [hafter], by rw [hafter], ?_⟩
    intro hwait
    have he : ¬ e.isWait := by
      cases e with
      | wait program reason => exact absurd rfl (hwait program reason)
      | _ => exact Bool.false_ne_true
    exact ⟨(processLine_of_rejected h he).1, stdout_of_rejected h he⟩
  · intro lines h
    exact (sh.suffices_not_rejected lines).congr fun o ho => Outcome.not_rejected_eq (h o ho)

end Shell

end LineShell
