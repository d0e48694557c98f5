import LineShell.Error
import LineShell.Expansion
import LineShell.Text.Words

/-! From a line to words: the line is measured, expanded, measured again and split. Each step has an
error of its own, and the first one that occurs is the answer. -/

namespace LineShell

/-- Splits a line into words, of which there may be `maxWords`. -/
def tokenize (line : Text) : Except LineError (List Text) :=
  if line.words.length ≤ maxWords then .ok line.words else .error .tooManyWords

/-- Expands a line in a given way and splits it into words, with the log of it. -/
def prepareWith (expansion : Text → Option Text × List Event) (line : Text) :
    Except LineError (List Text) × List Event :=
  if line.size > maxLine then (.error .inputTooLong, [])
  else
    match expansion line with
    | (none, events) => (.error .lineTooLong, events)
    | (some expanded, events) =>
      match tokenize expanded with
      | .error e => (.error e, events)
      | .ok words => (.ok words, events ++ [.tokens words])

/-- Expands a line and splits it into words, with the log of it. -/
def prepare (store : Store) (line : Text) : Except LineError (List Text) × List Event :=
  prepareWith (expand store) line

end LineShell
