import LineShell.Host.Basic

/-! Where the shell loop gets its lines from. A source is asked for one line at a time and shows the
prompt itself; whatever lets the loop go on uses up some of it. -/

namespace LineShell

/-- Why a line could not be read. -/
inductive InputError
  /-- The prompt did not fit into what it was written to. -/
  | shortWrite
  | refused (reason : Errno)
  | failed (text : Text)
  deriving DecidableEq, Repr

def InputError.message (e : InputError) : Text :=
  "IO error: ".toList ++
    match e with
    | .shortWrite => "failed to write whole buffer".toList
    | .refused reason => reason.message
    | .failed text => text

/-- What a source answers when it is asked for a line. -/
inductive Reply
  | line (text : Text)
  /-- The user gave up the line that was being typed. -/
  | interrupted
  | eof
  deriving DecidableEq, Repr

/-- An answer, what was written on the way to it, and the source as it is afterwards. -/
structure Reading (σ : Type) where
  reply : Except InputError Reply
  written : Bytes
  source : σ

/-- A source of lines, with a size that each line and each interruption makes smaller. -/
class LineSource (σ : Type) where
  /-- Shows a prompt and reads a line. -/
  read : Text → σ → Reading σ
  size : σ → Nat
  size_of_line : ∀ {prompt : Text} {s : σ} {text : Text},
    (read prompt s).reply = .ok (.line text) → size (read prompt s).source < size s
  size_of_interrupted : ∀ {prompt : Text} {s : σ},
    (read prompt s).reply = .ok .interrupted → size (read prompt s).source < size s

end LineShell
