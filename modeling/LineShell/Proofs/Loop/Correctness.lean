import LineShell.Proofs.Loop.Equations
import Mathlib.Data.List.Basic

/-! # Correctness of the loop

A run of the loop is a session: the lines that the source gives are run in order, up to the first
answer that ends the loop. Around the actions of each line stand the prompt that asked for it and the
report of its error. -/

namespace LineShell

/-! ## Answers up to the end -/

/-- A source that is asked often enough gives an answer that ends the loop. -/
theorem LineSource.exists_readings {σ : Type} [LineSource σ] (source : σ) :
    ∃ (before : List (Reading σ)) (last : Reading σ),
      readings source (.replicate (before.length + 1) prompt) = before ++ [last] ∧
      (∀ r ∈ before, ¬ EndsLoop r.reply) ∧ EndsLoop last.reply := by
  generalize hsize : size source = n
  induction n using Nat.strongRecOn generalizing source with
  | ind n ih =>
      by_cases hend : EndsLoop (read prompt source).reply
      · exact ⟨[], read prompt source, rfl, by simp, hend⟩
      · have hless : size (read prompt source).source < n := by
          rw [← hsize]
          cases hreply : (read prompt source).reply with
          | error e =>
              rw [hreply] at hend
              exact absurd trivial hend
          | ok reply =>
              cases reply with
              | line text => exact size_of_line hreply
              | interrupted => exact size_of_interrupted hreply
              | eof =>
                  rw [hreply] at hend
                  exact absurd trivial hend
        obtain ⟨before, last, hreadings, hgo, hlast⟩ := ih _ hless _ rfl
        refine ⟨read prompt source :: before, last, ?_, List.forall_mem_cons.mpr ⟨hend, hgo⟩, hlast⟩
        rw [List.length_cons, List.replicate_succ, readings_cons, hreadings, List.cons_append]

namespace Shell

variable {Files Dir σ : Type} [Host Files Dir]

/-! ## The transcript of a run -/

/-- What the loop does at answers that do not end it, one after the other. -/
def transcript (report : LineError → Action) (sh : Shell Files Dir) :
    List (Reading σ) → List Action
  | [] => []
  | r :: rs => sh.readingActions report r ++ (sh.afterReading r).transcript report rs

/-- A run is the session of the lines in its answers. -/
theorem run_of_readings [LineSource σ] (settings : Settings) (sh : Shell Files Dir) {source : σ}
    {before : List (Reading σ)} {last : Reading σ}
    (hreadings : LineSource.readings source (.replicate (before.length + 1) prompt) =
      before ++ [last])
    (hgo : ∀ r ∈ before, ¬ EndsLoop r.reply) (hlast : EndsLoop last.reply) :
    sh.run settings source =
      ⟨last.reply.map fun _ => (), sh.session (before.filterMap Reading.line?), last.source,
        sh.transcript settings.report before ++ .ask prompt last.written :: closing last.reply⟩ := by
  induction before generalizing sh source with
  | nil =>
      have hread : LineSource.read prompt source = last := (List.cons.inj hreadings).1
      exact run_of_endsLoop settings sh hread hlast
  | cons r rs ih =>
      obtain ⟨hread, hrest⟩ := List.cons.inj hreadings
      obtain ⟨hr, hrs⟩ := List.forall_mem_cons.mp hgo
      rw [hread] at hrest
      have hsession : sh.session ((r :: rs).filterMap Reading.line?) =
          (sh.afterReading r).session (rs.filterMap Reading.line?) := by
        rw [List.filterMap_eq_flatMap_toList, List.filterMap_eq_flatMap_toList, List.flatMap_cons]
        exact List.foldl_append
      rw [run_of_not_endsLoop settings sh hread hr, ih (sh.afterReading r) hrest hrs, hsession,
        transcript, Run.after, List.append_assoc]

theorem outcomes_append (sh : Shell Files Dir) (lines more : List Text) :
    sh.outcomes (lines ++ more) = sh.outcomes lines ++ (sh.session lines).outcomes more := by
  induction lines generalizing sh with
  | nil => rfl
  | cons line lines ih =>
      rw [List.cons_append, outcomes, outcomes, ih, session_cons, List.cons_append]

/-- The lines in answers have their outcomes one answer after the other. -/
theorem outcomes_readings_cons (sh : Shell Files Dir) (r : Reading σ) (rs : List (Reading σ)) :
    sh.outcomes ((r :: rs).filterMap Reading.line?) =
      sh.outcomes r.line?.toList ++ (sh.afterReading r).outcomes (rs.filterMap Reading.line?) := by
  rw [afterReading, ← outcomes_append, List.filterMap_eq_flatMap_toList,
    List.filterMap_eq_flatMap_toList, List.flatMap_cons]

end Shell

/-! ## Prompts -/

theorem prompt?_of_mem_closing {reply : Except InputError Reply} {a : Action}
    (h : a ∈ closing reply) : a.prompt? = none := by
  cases reply with
  | error e => cases h
  | ok reply =>
      rw [List.mem_singleton.mp h]
      rfl

theorem filterMap_prompt?_cons {asked : Text} {written : Bytes} {rest : List Action}
    (h : ∀ a ∈ rest, a.prompt? = none) :
    (Action.ask asked written :: rest).filterMap Action.prompt? = [asked] := by
  have hrest : rest.filterMap Action.prompt? = [] := List.filterMap_eq_nil_iff.mpr h
  exact congrArg (List.cons asked) hrest

theorem filter_prompt?_cons {asked : Text} {written : Bytes} {rest : List Action}
    (h : ∀ a ∈ rest, a.prompt? = none) :
    (Action.ask asked written :: rest).filter (·.prompt?.isNone) = rest := by
  rw [List.filter_cons_of_neg (by simp [Action.prompt?])]
  refine List.filter_eq_self.mpr fun a ha => ?_
  rw [h a ha, Option.isNone_none]

theorem not_isReport_of_mem_closing {reply : Except InputError Reply} {a : Action}
    (h : a ∈ closing reply) : ¬ a.isReport := by
  cases reply with
  | error e => cases h
  | ok reply =>
      rw [List.mem_singleton.mp h]
      exact Bool.false_ne_true

namespace Shell

section
variable {Files Dir σ : Type} [Host Files Dir] {report : LineError → Action}
  (hreport : ∀ e, (report e).isReport) (sh : Shell Files Dir)
include hreport

/-- Lines and reports ask for nothing. -/
theorem prompt?_of_mem_lines (lines : List Text) :
    ∀ a ∈ (sh.outcomes lines).flatMap (Outcome.reported report), a.prompt? = none := by
  intro a ha
  obtain ⟨o, ho, ha⟩ := List.mem_flatMap.mp ha
  rcases List.mem_append.mp ha with ha | ha
  · exact (sh.ofLine_outcomes lines o ho a ha).prompt?_eq
  · obtain ⟨e, -, rfl⟩ := List.mem_map.mp ha
    exact Action.prompt?_of_isReport (hreport e)

theorem filterMap_prompt?_transcript (rs : List (Reading σ)) :
    (sh.transcript report rs).filterMap Action.prompt? = .replicate rs.length prompt := by
  induction rs generalizing sh with
  | nil => rfl
  | cons r rs ih =>
      have hasks : (sh.readingActions report r).filterMap Action.prompt? = [prompt] :=
        filterMap_prompt?_cons (sh.prompt?_of_mem_lines hreport _)
      rw [transcript, List.filterMap_append, hasks, ih, List.length_cons, List.replicate_succ,
        List.singleton_append]

/-- Prompts aside, a transcript is the outcomes of its lines, each with the report on it. -/
theorem filter_transcript (rs : List (Reading σ)) :
    (sh.transcript report rs).filter (·.prompt?.isNone) =
      (sh.outcomes (rs.filterMap Reading.line?)).flatMap (Outcome.reported report) := by
  induction rs generalizing sh with
  | nil => rfl
  | cons r rs ih =>
      have hlines : (sh.readingActions report r).filter (·.prompt?.isNone) =
          (sh.outcomes r.line?.toList).flatMap (Outcome.reported report) :=
        filter_prompt?_cons (sh.prompt?_of_mem_lines hreport _)
      rw [transcript, List.filter_append, hlines, ih, outcomes_readings_cons, List.flatMap_append]

/-- Neither lines nor reports record the end of the loop. -/
theorem leaving_not_mem_transcript (rs : List (Reading σ)) :
    .log .leaving ∉ sh.transcript report rs := by
  intro h
  have hmem : .log .leaving ∈ (sh.transcript report rs).filter (·.prompt?.isNone) :=
    List.mem_filter.mpr ⟨h, rfl⟩
  rw [sh.filter_transcript hreport] at hmem
  obtain ⟨o, ho, hmem⟩ := List.mem_flatMap.mp hmem
  rcases List.mem_append.mp hmem with hmem | hmem
  · exact sh.ofLine_outcomes _ o ho _ hmem
  · obtain ⟨e, -, he⟩ := List.mem_map.mp hmem
    have hleaving := hreport e
    rw [he] at hleaving
    cases hleaving

/-- A line leaves one report if it fails, and none if it does not. -/
theorem filter_isReport_lines (lines : List Text) :
    ((sh.outcomes lines).flatMap (Outcome.reported report)).filter Action.isReport =
      ((sh.outcomes lines).filterMap Outcome.error?).map report := by
  rw [List.filter_flatMap, List.filterMap_eq_flatMap_toList, List.map_flatMap]
  refine List.flatMap_congr fun o ho => ?_
  have hactions : ∀ a ∈ o.actions, ¬ a.isReport :=
    fun a ha => (sh.ofLine_outcomes lines o ho a ha).not_isReport
  have hreports : ∀ a ∈ o.error?.toList.map report, a.isReport := by
    intro a ha
    obtain ⟨e, -, rfl⟩ := List.mem_map.mp ha
    exact hreport e
  rw [Outcome.reported, List.filter_append, List.filter_eq_nil_iff.mpr hactions,
    List.filter_eq_self.mpr hreports, List.nil_append]

end

end Shell

/-! ## Output -/

/-- A prompt is no output. -/
theorem flatMap_filter_prompt? {output : Action → Bytes}
    (hask : ∀ asked written, output (.ask asked written) = []) (actions : List Action) :
    (actions.filter (·.prompt?.isNone)).flatMap output = actions.flatMap output := by
  refine flatMap_filter_of_nil ?_
  intro a _ ha
  cases a with
  | ask asked written => exact hask asked written
  | _ => exact absurd rfl ha

/-- A prompt is no report. -/
theorem filter_isReport_filter_prompt? (actions : List Action) :
    (actions.filter (·.prompt?.isNone)).filter Action.isReport = actions.filter Action.isReport := by
  rw [List.filter_filter]
  refine List.filter_congr fun a _ => ?_
  cases a <;> simp [Action.isReport, Action.prompt?]

section
variable {Files Dir α : Type} {report : LineError → Action} (o : Outcome Files Dir α)

theorem Outcome.stdout_reported (hreport : ∀ e, (report e).isReport) :
    (o.reported report).flatMap Action.stdout = o.stdout := by
  have hnone : (o.error?.toList.map report).flatMap Action.stdout = [] := by
    rw [List.flatMap_map]
    exact List.flatMap_eq_nil_iff.mpr fun e _ => Action.stdout_of_isReport (hreport e)
  rw [reported, List.flatMap_append, hnone, List.append_nil, stdout]

theorem Outcome.stderr_reported {written : LineError → Bytes}
    (hwritten : ∀ e, (report e).stderr = written e) :
    (o.reported report).flatMap Action.stderr = o.stderr ++ o.error?.toList.flatMap written := by
  have hbytes : (o.error?.toList.map report).flatMap Action.stderr =
      o.error?.toList.flatMap written := by
    rw [List.flatMap_map]
    exact List.flatMap_congr fun e _ => hwritten e
  rw [reported, List.flatMap_append, hbytes, stderr]

end

theorem flatMap_closing {output : Action → Bytes} (hlog : ∀ event, output (.log event) = [])
    (reply : Except InputError Reply) : (closing reply).flatMap output = [] := by
  cases reply with
  | error e => rfl
  | ok reply => rw [closing, List.flatMap_cons, hlog, List.flatMap_nil, List.nil_append]

/-! ## Runs -/

/-- A run that was given some answers, the last of which ended it, is the session of the lines in
them. It takes an action for each error, and that writes the given bytes to the error stream. -/
structure Run.IsSession {Files Dir σ : Type} [Host Files Dir] (report : LineError → Action)
    (written : LineError → Bytes) (sh : Shell Files Dir) (before : List (Reading σ))
    (last : Reading σ) (run : Run Files Dir σ) : Prop where
  /-- Only a failure of the source makes the run fail. -/
  result : run.result = last.reply.map fun _ => ()
  shell : run.shell = sh.session (before.filterMap Reading.line?)
  /-- The source is not asked again after the last answer. -/
  source : run.source = last.source
  asks : run.actions.filterMap Action.prompt? = .replicate (before.length + 1) "xsh# ".toList
  /-- All actions in order: those at each answer, the last prompt, and the record of the end. -/
  actions : run.actions =
    sh.transcript report before ++ .ask prompt last.written :: closing last.reply
  /-- Behind the actions of each line stands the report on it, if it failed. -/
  lines : run.actions.filter (·.prompt?.isNone) =
    (sh.outcomes (before.filterMap Reading.line?)).flatMap
      (fun o => o.actions ++ o.error?.toList.map report) ++ closing last.reply
  /-- Each line that fails is reported once, and nothing else is. -/
  reports : run.actions.filter Action.isReport =
    ((sh.outcomes (before.filterMap Reading.line?)).filterMap Outcome.error?).map report
  stdout : run.actions.flatMap Action.stdout =
    (sh.outcomes (before.filterMap Reading.line?)).flatMap Outcome.stdout
  stderr : run.actions.flatMap Action.stderr =
    (sh.outcomes (before.filterMap Reading.line?)).flatMap
      fun o => o.stderr ++ o.error?.toList.flatMap written
  /-- The end is recorded once if a line or the end of input ended the run, else never. -/
  leaving : run.actions.count (.log .leaving) = (closing last.reply).length

theorem Shell.isSession_of_readings {Files Dir σ : Type} [Host Files Dir] [LineSource σ]
    (settings : Settings) {written : LineError → Bytes}
    (hwritten : ∀ e, (settings.report e).stderr = written e) (sh : Shell Files Dir) {source : σ}
    {before : List (Reading σ)} {last : Reading σ}
    (hreadings : LineSource.readings source (.replicate (before.length + 1) prompt) =
      before ++ [last])
    (hgo : ∀ r ∈ before, ¬ EndsLoop r.reply) (hlast : EndsLoop last.reply) :
    Run.IsSession settings.report written sh before last (sh.run settings source) := by
  have hreport := settings.isReport_report
  have hclosing : ∀ a ∈ closing last.reply, a.prompt? = none := fun _ => prompt?_of_mem_closing
  have hlines : (sh.transcript settings.report before ++
      .ask prompt last.written :: closing last.reply).filter (·.prompt?.isNone) =
        (sh.outcomes (before.filterMap Reading.line?)).flatMap
          (Outcome.reported settings.report) ++ closing last.reply := by
    rw [List.filter_append, sh.filter_transcript hreport, filter_prompt?_cons hclosing]
  rw [run_of_readings settings sh hreadings hgo hlast]
  constructor
  case result | shell | source | actions => rfl
  case asks =>
    rw [List.filterMap_append, sh.filterMap_prompt?_transcript hreport,
      filterMap_prompt?_cons hclosing, List.replicate_succ']
    rfl
  case lines => exact hlines
  case reports =>
    have hnone : (closing last.reply).filter Action.isReport = [] :=
      List.filter_eq_nil_iff.mpr fun _ => not_isReport_of_mem_closing
    rw [← filter_isReport_filter_prompt?, hlines, List.filter_append,
      sh.filter_isReport_lines hreport, hnone, List.append_nil]
  case stdout =>
    rw [← flatMap_filter_prompt? fun _ _ => rfl, hlines, List.flatMap_append, List.flatMap_assoc,
      flatMap_closing fun _ => rfl, List.append_nil]
    exact List.flatMap_congr fun o _ => o.stdout_reported hreport
  case stderr =>
    rw [← flatMap_filter_prompt? fun _ _ => rfl, hlines, List.flatMap_append, List.flatMap_assoc,
      flatMap_closing fun _ => rfl, List.append_nil]
    exact List.flatMap_congr fun o _ => o.stderr_reported hwritten
  case leaving =>
    have hcount := List.count_eq_zero.mpr (sh.leaving_not_mem_transcript hreport before)
    rw [List.count_append, hcount]
    cases last.reply <;> simp [closing]

/-- For every source there are answers, the last of which is the first one that ends the loop, so
that every run of the loop over that source asks for just these and is the session of their lines.
A run that is not quiet reports each error on the error stream, coloured or not, and a quiet run records
its message instead. -/
theorem run_isSession {Files Dir σ : Type} [Host Files Dir] [LineSource σ] (source : σ) :
    ∃ (before : List (Reading σ)) (last : Reading σ),
      LineSource.readings source (.replicate (before.length + 1) "xsh# ".toList) =
        before ++ [last] ∧
      (∀ r ∈ before, ¬ EndsLoop r.reply) ∧ EndsLoop last.reply ∧
      (∀ sh : Shell Files Dir,
        Run.IsSession (fun e => .report ("xsh: ".toList ++ e.message))
            (fun e => Text.encode ("xsh: ".toList ++ e.message ++ ['\n']))
            sh before last (sh.run ⟨false, ⟨false⟩⟩ source) ∧
          Run.IsSession
            (fun e => .report
              ("\x1b[31m\x1b[1m".toList ++ ("xsh: ".toList ++ e.message) ++ "\x1b[0m".toList))
            (fun e => Text.encode
              ("\x1b[31m\x1b[1m".toList ++ ("xsh: ".toList ++ e.message) ++ "\x1b[0m".toList ++
                ['\n']))
            sh before last (sh.run ⟨false, ⟨true⟩⟩ source) ∧
          ∀ highlighter, Run.IsSession (fun e => .log (.suppressed e.message)) (fun _ => [])
            sh before last (sh.run ⟨true, highlighter⟩ source)) ∧
      (∀ message, (Event.suppressed message).record =
        ⟨.debug, "xsh::shell".toList, "suppressed: ".toList ++ message⟩) ∧
      Event.leaving.record = ⟨.debug, "xsh::shell".toList, "leaving shell loop".toList⟩ := by
  obtain ⟨before, last, hreadings, hgo, hlast⟩ := LineSource.exists_readings source
  refine ⟨before, last, hreadings, hgo, hlast, ?_, fun _ => rfl, rfl⟩
  intro sh
  refine ⟨?_, ?_, fun highlighter => ?_⟩
  · exact sh.isSession_of_readings ⟨false, ⟨false⟩⟩ (fun _ => rfl) hreadings hgo hlast
  · exact sh.isSession_of_readings ⟨false, ⟨true⟩⟩ (fun _ => rfl) hreadings hgo hlast
  · exact sh.isSession_of_readings ⟨true, highlighter⟩ (fun _ => rfl) hreadings hgo hlast

end LineShell
