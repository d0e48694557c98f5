import LineShell.Console
import LineShell.Highlight.Detection
import LineShell.Log.Filter

/-! The console that the program is run with. -/

namespace LineShell

/-- What is said when the program is given up. The words are this console's own. -/
def Panic.message : Panic → Text
  | argument _ => "an argument is not Unicode".toList
  | printing reason => "failed printing to stdout: ".toList ++ reason.message

/-- Colours follow from the environment, and so does the filter of the log. All records carry the same
time stamp. -/
def Console.standard (stamp : Text) : Console where
  coloured env := (Highlighter.detect env).coloured
  logger env default :=
    let filter := LogFilter.ofText ((env.get? "RUST_LOG".toList).getD default)
    ⟨[], fun _ r => if filter.shows r then (r.line stamp).encode else []⟩
  panicked p := p.message.encode

end LineShell
