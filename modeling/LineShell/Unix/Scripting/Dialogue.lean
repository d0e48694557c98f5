import LineShell.Unix.Scripting.Eval

/-! The main script of a shell. An interactive shell asks for every line of it, and goes on with it
behind an error. Bytes that had been read ahead are lost then. -/

namespace LineShell.Unix.Scripting

namespace Run

/-- Shows a prompt. -/
def prompt (ev : Evaluator) (name : String) : Run Unit := do
  tell (← promptText ev name)

/-- So often a user who does not want to leave is told how to leave. -/
def maxReminders : Nat := 50

/-- Runs the commands of the main script from some line on. -/
def converse (ev : Evaluator) (fd line : Nat) : Run Unit :=
  repeating (({ fd, reader := { text := [], line } } : Source), 0) fun (source, reminders) => do
    let asks ← isOn "interactive"
    if asks then prompt ev "PS1"
    let (c, source) ← readFrom source (if asks then prompt ev "PS2" else pure ())
    match c with
    | none =>
      if asks ∧ reminders < maxReminders then
        if ← isOn "ignoreeof" then
          tell "\nUse \"exit\" to leave shell.\n".toList
          return .inl ({ source with ended := false }, reminders + 1)
        tell ['\n']
      return .inr ()
    | some none => return .inl (source, reminders)
    | some (some c) =>
      discard <| ev.run c {}
      match (← state).skip with
      | .nothing => return .inl (source, reminders)
      | .function _ =>
        update ({ · with skip := .nothing })
        return .inr ()
      | _ => return .inr ()

/-- Does something, and says whether it was done to its end. In an interactive shell that need not
be so. -/
def attempt (work : Run Unit) : Run Bool :=
  tryCatch (do work; return true) fun reason => do
    if (← state).isInteractive ∧ (reason = .error ∨ reason = .interrupted) then
      if reason = .interrupted then
        tell ['\n']
        update ({ · with status := 128 + interruptSignal })
      update (reset false)
      return false
    else throw reason

/-- Runs the main script to its end. -/
def runMain (ev : Evaluator) (fd : Nat) : Run Unit :=
  repeating 1 fun line => do
    if ← attempt (converse ev fd line) then return .inr ()
    else
      let s ← state
      return .inl (max s.line s.readLine)

/-- Runs the script that an interactive shell starts with, if there is one. -/
def runProfile (ev : Evaluator) : Run Unit := do
  match ← value? "ENV".toList with
  | none | some [] => return
  | some text =>
    let path ← expandPrompt ev text
    if let .ok index ← ask (·.openPath path { reads := true }) then
      let fd ← ask fun p => Machine.keep p.pid index
      always (discard <| runFile ev fd) (connect fd none)

end Run

end LineShell.Unix.Scripting
