import LineShell.Input.Basic

/-! Lines from a list of answers fixed in advance, with the end of input behind them. -/

namespace LineShell

/-- The answers that are still to come. -/
structure Script where
  replies : List (Except InputError Reply)

namespace Script

/-- Gives the next answer and shows no prompt. -/
def read (_prompt : Text) (s : Script) : Reading Script :=
  match s.replies with
  | [] => ⟨.ok .eof, [], s⟩
  | reply :: rest => ⟨reply, [], ⟨rest⟩⟩

theorem length_of_ne_eof {prompt : Text} {s : Script} (h : (s.read prompt).reply ≠ .ok .eof) :
    (s.read prompt).source.replies.length < s.replies.length := by
  unfold read at h ⊢
  split
  · simp_all
  · simp_all

instance : LineSource Script where
  read := read
  size s := s.replies.length
  size_of_line h := length_of_ne_eof (by simp [h])
  size_of_interrupted h := length_of_ne_eof (by simp [h])

end Script

end LineShell
