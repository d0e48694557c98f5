import LineShell.Proofs.Loop.Correctness

/-! # Reports

A run is made of incidents: actions, and failures of lines. How errors are reported is settled last.
The settings say which action a failure becomes, and bear on nothing else. -/

namespace LineShell

/-! ## Actions of programs -/

namespace Action

/-- The program that was run, with its arguments and what it wrote. -/
def program? : Action → Option (Text × List Text × List Write)
  | ran program args writes => some (program, args, writes)
  | log _ | print _ | report _ | ask _ _ => none

/-- What programs write to the error stream, reports aside. -/
def programStderr : Action → Bytes
  | ran _ _ writes => Stream.stderr.bytes writes
  | log _ | print _ | report _ | ask _ _ => []

variable {a : Action}

theorem program?_of_isReport (h : a.isReport) : a.program? = none := by
  cases a with
  | log | report => rfl
  | print | ran | ask => cases h

theorem programStderr_of_isReport (h : a.isReport) : a.programStderr = [] := by
  cases a with
  | log | report => rfl
  | print | ran | ask => cases h

end Action

/-! ## Incidents -/

/-- What happens in a run: an action, or the failure of a line, which is still to be reported. -/
inductive Incident
  | action (a : Action)
  | failure (e : LineError)

namespace Incident

def action? : Incident → Option Action
  | action a => some a
  | failure _ => none

def error? : Incident → Option LineError
  | action _ => none
  | failure e => some e

/-- An incident as an action, with an action for each error. -/
def toAction (report : LineError → Action) : Incident → Action
  | action a => a
  | failure e => report e

/-- What an incident writes to the error stream, with bytes for each error. -/
def stderr (written : LineError → Bytes) : Incident → Bytes
  | action a => a.stderr
  | failure e => written e

theorem map_toAction_actions (report : LineError → Action) (actions : List Action) :
    (actions.map action).map (toAction report) = actions := by
  rw [List.map_map]
  exact List.map_id actions

theorem filterMap_error?_actions (actions : List Action) :
    (actions.map action).filterMap error? = [] := by
  simp [List.filterMap_eq_nil_iff, error?]

section
variable {report : LineError → Action}

theorem stderr_toAction {written : LineError → Bytes} (h : ∀ e, (report e).stderr = written e)
    (incidents : List Incident) :
    (incidents.map (toAction report)).flatMap Action.stderr = incidents.flatMap (stderr written) := by
  rw [List.flatMap_map]
  refine List.flatMap_congr fun i _ => ?_
  cases i with
  | action a => rfl
  | failure e => exact h e

/-- Without reports the actions are the same, whatever the reports are. -/
theorem filter_toAction (h : ∀ e, (report e).isReport) (incidents : List Incident) :
    (incidents.map (toAction report)).filter (!·.isReport) =
      (incidents.filterMap action?).filter (!·.isReport) := by
  induction incidents with
  | nil => rfl
  | cons i rest ih =>
      cases i with
      | action a =>
          have haction : (action a :: rest).filterMap action? = a :: rest.filterMap action? := rfl
          rw [List.map_cons, haction, List.filter_cons, List.filter_cons, ih]
          rfl
      | failure e =>
          rw [List.map_cons, List.filterMap_cons_none rfl, ← ih]
          exact List.filter_cons_of_neg (by simp [toAction, h e])

end

end Incident

/-! ## Incidents of lines -/

namespace Outcome

variable {Files Dir α : Type}

/-- The incidents of a line: its actions, and its failure if it failed. -/
def incidents (o : Outcome Files Dir α) : List Incident :=
  o.actions.map .action ++ o.error?.toList.map .failure

theorem map_toAction_incidents (report : LineError → Action) (o : Outcome Files Dir α) :
    o.incidents.map (Incident.toAction report) = o.reported report := by
  rw [incidents, reported, List.map_append, Incident.map_toAction_actions, List.map_map]
  rfl

theorem filterMap_error?_incidents (o : Outcome Files Dir α) :
    o.incidents.filterMap Incident.error? = o.error?.toList := by
  rw [incidents, List.filterMap_append, Incident.filterMap_error?_actions, List.nil_append]
  cases o.error? <;> rfl

theorem mem_actions_of_mem_incidents {o : Outcome Files Dir α} {a : Action}
    (h : .action a ∈ o.incidents) : a ∈ o.actions := by
  simpa [incidents] using h

end Outcome

/-! ## Incidents of runs -/

namespace Shell

variable {Files Dir σ : Type} [Host Files Dir]

/-- The incidents at answers that do not end the loop, one after the other. -/
def incidents (sh : Shell Files Dir) : List (Reading σ) → List Incident
  | [] => []
  | r :: rs =>
    .action (.ask prompt r.written) ::
      ((sh.outcomes r.line?.toList).flatMap Outcome.incidents ++ (sh.afterReading r).incidents rs)

theorem map_toAction_incidents (report : LineError → Action) (sh : Shell Files Dir)
    (rs : List (Reading σ)) :
    (sh.incidents rs).map (Incident.toAction report) = sh.transcript report rs := by
  induction rs generalizing sh with
  | nil => rfl
  | cons r rs ih =>
      rw [incidents, List.map_cons, List.map_append, ih, List.map_flatMap]
      simp only [Outcome.map_toAction_incidents]
      rfl

/-- The failures among the incidents are those of the lines, in order. -/
theorem filterMap_error?_incidents (sh : Shell Files Dir) (rs : List (Reading σ)) :
    (sh.incidents rs).filterMap Incident.error? =
      (sh.outcomes (rs.filterMap Reading.line?)).filterMap Outcome.error? := by
  induction rs generalizing sh with
  | nil => rfl
  | cons r rs ih =>
      have hlines : ((sh.outcomes r.line?.toList).flatMap Outcome.incidents).filterMap
          Incident.error? = (sh.outcomes r.line?.toList).filterMap Outcome.error? := by
        rw [List.filterMap_flatMap, List.filterMap_eq_flatMap_toList]
        exact List.flatMap_congr fun o _ => o.filterMap_error?_incidents
      rw [incidents, List.filterMap_cons_none rfl, List.filterMap_append, hlines, ih,
        outcomes_readings_cons, List.filterMap_append]

theorem not_isReport_of_mem_incidents {sh : Shell Files Dir} {rs : List (Reading σ)} {a : Action}
    (h : .action a ∈ sh.incidents rs) : ¬ a.isReport := by
  induction rs generalizing sh with
  | nil => cases h
  | cons r rs ih =>
      rw [incidents, List.mem_cons, List.mem_append] at h
      rcases h with h | h | h
      · rw [Incident.action.inj h]
        exact Bool.false_ne_true
      · obtain ⟨o, ho, ha⟩ := List.mem_flatMap.mp h
        have hmem := Outcome.mem_actions_of_mem_incidents ha
        exact (sh.ofLine_outcomes _ o ho a hmem).not_isReport
      · exact ih h

/-- The incidents of a whole run. Behind those at the answers that do not end it stand the prompt for
the last answer and the record of the end. -/
def runIncidents (sh : Shell Files Dir) (before : List (Reading σ)) (last : Reading σ) :
    List Incident :=
  sh.incidents before ++ (.ask prompt last.written :: closing last.reply).map .action

section
variable {sh : Shell Files Dir} {before : List (Reading σ)} {last : Reading σ}

theorem filterMap_error?_runIncidents :
    (sh.runIncidents before last).filterMap Incident.error? =
      (sh.outcomes (before.filterMap Reading.line?)).filterMap Outcome.error? := by
  rw [runIncidents, List.filterMap_append, filterMap_error?_incidents,
    Incident.filterMap_error?_actions, List.append_nil]

theorem not_isReport_of_mem_runIncidents {a : Action}
    (h : .action a ∈ sh.runIncidents before last) : ¬ a.isReport := by
  rcases List.mem_append.mp h with h | h
  · exact not_isReport_of_mem_incidents h
  · obtain ⟨b, hb, hab⟩ := List.mem_map.mp h
    rw [← Incident.action.inj hab]
    rcases List.mem_cons.mp hb with rfl | hb
    · exact Bool.false_ne_true
    · exact not_isReport_of_mem_closing hb

variable [LineSource σ]

/-- The settings turn the incidents of a run into its actions, and do nothing else. -/
theorem run_of_incidents {source : σ}
    (hreadings : LineSource.readings source (.replicate (before.length + 1) prompt) =
      before ++ [last])
    (hgo : ∀ r ∈ before, ¬ EndsLoop r.reply) (hlast : EndsLoop last.reply) (settings : Settings) :
    sh.run settings source =
      ⟨last.reply.map fun _ => (), sh.session (before.filterMap Reading.line?), last.source,
        (sh.runIncidents before last).map (Incident.toAction settings.report)⟩ := by
  rw [sh.run_of_readings settings hreadings hgo hlast, runIncidents, List.map_append,
    map_toAction_incidents, Incident.map_toAction_actions]

end

end Shell

/-! ## Runs with different settings -/

namespace Run

variable {Files Dir σ : Type}

/-- A run that is made of incidents: it takes an action for each error, and that writes the given
bytes to the error stream. -/
structure MadeOf (incidents : List Incident) (report : LineError → Action)
    (written : LineError → Bytes) (run : Run Files Dir σ) : Prop where
  actions : run.actions = incidents.map (Incident.toAction report)
  stderr : run.actions.flatMap Action.stderr = incidents.flatMap (Incident.stderr written)

theorem MadeOf.of_actions {incidents : List Incident} {report : LineError → Action}
    {written : LineError → Bytes} {run : Run Files Dir σ}
    (h : run.actions = incidents.map (Incident.toAction report))
    (hwritten : ∀ e, (report e).stderr = written e) : run.MadeOf incidents report written := by
  refine ⟨h, ?_⟩
  rw [h, Incident.stderr_toAction hwritten]

/-- Two runs that differ in nothing but reports. -/
structure SameButReports (run run' : Run Files Dir σ) : Prop where
  result : run.result = run'.result
  /-- The variables, the last status, the files and the working directory. -/
  shell : run.shell = run'.shell
  source : run.source = run'.source
  stdout : run.actions.flatMap Action.stdout = run'.actions.flatMap Action.stdout
  programs : run.actions.filterMap Action.program? = run'.actions.filterMap Action.program?
  programStderr :
    run.actions.flatMap Action.programStderr = run'.actions.flatMap Action.programStderr
  /-- All other actions, and so all other records. -/
  others : run.actions.filter (!·.isReport) = run'.actions.filter (!·.isReport)

/-- Reports are no output of commands. -/
theorem flatMap_filter_isReport {β : Type} {f : Action → List β}
    (h : ∀ a : Action, a.isReport → f a = []) (actions : List Action) :
    (actions.filter (!·.isReport)).flatMap f = actions.flatMap f := by
  refine flatMap_filter_of_nil ?_
  intro a _ ha
  exact h a (by simpa using ha)

theorem SameButReports.of_others {run run' : Run Files Dir σ} (hresult : run.result = run'.result)
    (hshell : run.shell = run'.shell) (hsource : run.source = run'.source)
    (hothers : run.actions.filter (!·.isReport) = run'.actions.filter (!·.isReport)) :
    run.SameButReports run' := by
  have houtput : ∀ {β : Type} {f : Action → List β}, (∀ a : Action, a.isReport → f a = []) →
      run.actions.flatMap f = run'.actions.flatMap f := by
    intro β f h
    rw [← flatMap_filter_isReport h, hothers, flatMap_filter_isReport h]
  refine ⟨hresult, hshell, hsource, ?_, ?_, ?_, hothers⟩
  · exact houtput fun _ => Action.stdout_of_isReport
  · rw [List.filterMap_eq_flatMap_toList, List.filterMap_eq_flatMap_toList]
    refine houtput fun a ha => ?_
    rw [Action.program?_of_isReport ha, Option.toList_none]
  · exact houtput fun _ => Action.programStderr_of_isReport

end Run

/-- Every run over a source is made of the same incidents: actions that are no reports, and the errors
of the lines that failed, in order. A run that is not quiet reports these errors, coloured or not, and
a quiet run leaves a record in the place of each report. Else all runs over the source are alike. -/
theorem settings_bear_on_reports_only {Files Dir σ : Type} [Host Files Dir] [LineSource σ]
    (sh : Shell Files Dir) (source : σ) :
    ∃ (before : List (Reading σ)) (last : Reading σ) (incidents : List Incident),
      LineSource.readings source (.replicate (before.length + 1) prompt) = before ++ [last] ∧
      (∀ r ∈ before, ¬ EndsLoop r.reply) ∧ EndsLoop last.reply ∧
      incidents.filterMap Incident.error? =
        (sh.outcomes (before.filterMap Reading.line?)).filterMap Outcome.error? ∧
      (∀ a, .action a ∈ incidents → ¬ a.isReport) ∧
      (sh.run ⟨false, ⟨false⟩⟩ source).MadeOf incidents
        (fun e => .report ("xsh: ".toList ++ e.message))
        (fun e => Text.encode ("xsh: ".toList ++ e.message ++ ['\n'])) ∧
      (sh.run ⟨false, ⟨true⟩⟩ source).MadeOf incidents
        (fun e => .report
          ("\x1b[31m\x1b[1m".toList ++ ("xsh: ".toList ++ e.message) ++ "\x1b[0m".toList))
        (fun e => Text.encode
          ("\x1b[31m\x1b[1m".toList ++ ("xsh: ".toList ++ e.message) ++ "\x1b[0m".toList ++
            ['\n'])) ∧
      (∀ highlighter, (sh.run ⟨true, highlighter⟩ source).MadeOf incidents
        (fun e => .log (.suppressed e.message)) fun _ => []) ∧
      ∀ settings settings', (sh.run settings source).SameButReports (sh.run settings' source) := by
  obtain ⟨before, last, hreadings, hgo, hlast⟩ := LineSource.exists_readings source
  have hrun := sh.run_of_incidents hreadings hgo hlast
  have hmade : ∀ settings {written}, (∀ e, (Settings.report settings e).stderr = written e) →
      (sh.run settings source).MadeOf (sh.runIncidents before last) settings.report written := by
    intro settings written hwritten
    exact Run.MadeOf.of_actions (by rw [hrun]) hwritten
  refine ⟨before, last, sh.runIncidents before last, hreadings, hgo, hlast,
    Shell.filterMap_error?_runIncidents, fun _ => Shell.not_isReport_of_mem_runIncidents, ?_, ?_, ?_,
    ?_⟩
  · exact hmade ⟨false, ⟨false⟩⟩ fun _ => rfl
  · exact hmade ⟨false, ⟨true⟩⟩ fun _ => rfl
  · exact fun highlighter => hmade ⟨true, highlighter⟩ fun _ => rfl
  · intro settings settings'
    rw [hrun, hrun]
    refine .of_others rfl rfl rfl ?_
    rw [Incident.filter_toAction settings.isReport_report,
      Incident.filter_toAction settings'.isReport_report]

end LineShell
