import LineShell.Highlight
import LineShell.Input.Basic
import LineShell.Shell

/-! Lines and the loop over them. The loop ends at a line that is exactly `exit` or `quit`, at the
end of input, or when the source fails; an error in a line is reported and the loop goes on. -/

namespace LineShell

/-- What the loop does after a line. -/
inductive Flow
  | goOn
  | exit
  deriving DecidableEq, Repr

/-- How errors are reported. -/
structure Settings where
  /-- Reports go to the log instead of the error stream. -/
  quiet : Bool
  highlighter : Highlighter
  deriving DecidableEq, Repr

/-- The report of an error. -/
def Settings.report (settings : Settings) (e : LineError) : Action :=
  if settings.quiet then .log (.suppressed e.message)
  else .report (settings.highlighter.report ("xsh: ".toList ++ e.message))

/-- The text that asks for a line. -/
def prompt : Text := "xsh# ".toList

/-- The lines that end the loop. -/
def isExit (line : Text) : Bool := line == "exit".toList || line == "quit".toList

namespace Shell

variable {Files Dir : Type} [Host Files Dir]

/-- Prepares a line and runs its command. -/
def processLine (sh : Shell Files Dir) (line : Text) : Outcome Files Dir Flow :=
  if isExit line then ⟨.ok .exit, sh, []⟩
  else
    match prepare sh.store line with
    | (.error e, events) => ⟨.error e, sh, events.map .log⟩
    | (.ok words, events) =>
      let o := sh.dispatch words
      ⟨o.result.map fun _ => .goOn, o.shell, events.map .log ++ o.actions⟩

end Shell

/-- How the loop ended, with the state it left, what is left of the source, and all actions. -/
structure Run (Files Dir σ : Type) where
  result : Except InputError Unit
  shell : Shell Files Dir
  source : σ
  actions : List Action

/-- Puts actions in front of those of a run. -/
def Run.after {Files Dir σ : Type} (r : Run Files Dir σ) (actions : List Action) :
    Run Files Dir σ :=
  { r with actions := actions ++ r.actions }

/-- Reads lines and runs them until the loop ends. -/
def Shell.run {Files Dir σ : Type} [Host Files Dir] [LineSource σ] (settings : Settings)
    (sh : Shell Files Dir) (source : σ) : Run Files Dir σ :=
  let reading := LineSource.read prompt source
  let asked := Action.ask prompt reading.written
  match h : reading.reply with
  | .error e => ⟨.error e, sh, reading.source, [asked]⟩
  | .ok .eof => ⟨.ok (), sh, reading.source, [asked, .log .leaving]⟩
  | .ok .interrupted =>
    have := LineSource.size_of_interrupted h
    (sh.run settings reading.source).after [asked]
  | .ok (.line text) =>
    have := LineSource.size_of_line h
    let o := sh.processLine text
    match o.result with
    | .ok .exit => ⟨.ok (), o.shell, reading.source, asked :: o.actions ++ [.log .leaving]⟩
    | .ok .goOn => (o.shell.run settings reading.source).after (asked :: o.actions)
    | .error e =>
      (o.shell.run settings reading.source).after (asked :: o.actions ++ [settings.report e])
termination_by LineSource.size source

end LineShell
