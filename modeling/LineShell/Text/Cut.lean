import LineShell.Text.Basic

/-! Cutting a text at each occurrence of a character. The parts may be empty. -/

namespace LineShell.Text

/-- Cuts a text at each occurrence of a character. -/
def cut (c : Char) : Text → List Text
  | [] => [[]]
  | d :: ds =>
    if d = c then [] :: cut c ds
    else
      match cut c ds with
      | [] => [[d]]
      | part :: parts => (d :: part) :: parts

theorem cut_ne_nil (c : Char) (t : Text) : cut c t ≠ [] := by
  fun_cases cut c t <;> simp

end LineShell.Text
