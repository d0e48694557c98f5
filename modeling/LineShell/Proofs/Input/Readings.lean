import LineShell.Input.Basic

/-! # Asking a source again and again -/

namespace LineShell

namespace Reading

variable {σ : Type} {r : Reading σ}

/-- The line of an answer, if the answer is a line. -/
def line? (r : Reading σ) : Option Text :=
  match r.reply with
  | .ok (.line text) => some text
  | .ok .interrupted | .ok .eof | .error _ => none

theorem line?_of_line {text : Text} (h : r.reply = .ok (.line text)) : r.line? = some text := by
  rw [line?, h]

theorem line?_of_interrupted (h : r.reply = .ok .interrupted) : r.line? = none := by
  rw [line?, h]

end Reading

namespace LineSource

variable {σ : Type} [LineSource σ]

/-- The answers of a source that is shown one prompt after another. -/
def readings (source : σ) : List Text → List (Reading σ)
  | [] => []
  | prompt :: prompts => read prompt source :: readings (read prompt source).source prompts

theorem readings_cons (source : σ) (prompt : Text) (prompts : List Text) :
    readings source (prompt :: prompts) =
      read prompt source :: readings (read prompt source).source prompts := rfl

theorem length_readings (source : σ) (prompts : List Text) :
    (readings source prompts).length = prompts.length := by
  induction prompts generalizing source with
  | nil => rfl
  | cons prompt prompts ih => rw [readings_cons, List.length_cons, List.length_cons, ih]

/-- The answers among them that are no errors. -/
def answers (source : σ) (prompts : List Text) : List Reply :=
  (readings source prompts).filterMap fun reading => reading.reply.toOption

theorem answers_cons_of_error {source : σ} {prompt : Text} {e : InputError}
    (h : (read prompt source).reply = .error e) (prompts : List Text) :
    answers source (prompt :: prompts) = answers (read prompt source).source prompts := by
  rw [answers, readings_cons, List.filterMap_cons_none (by rw [h]; rfl), answers]

theorem answers_cons_of_ok {source : σ} {prompt : Text} {reply : Reply}
    (h : (read prompt source).reply = .ok reply) (prompts : List Text) :
    answers source (prompt :: prompts) = reply :: answers (read prompt source).source prompts := by
  rw [answers, readings_cons, List.filterMap_cons_some (by rw [h]; rfl), answers]

/-- A source that was shown prompts one after another. -/
def after (source : σ) (prompts : List Text) : σ :=
  prompts.foldl (fun source prompt => (read prompt source).source) source

theorem after_cons (source : σ) (prompt : Text) (prompts : List Text) :
    after source (prompt :: prompts) = after (read prompt source).source prompts := rfl

end LineSource

end LineShell
