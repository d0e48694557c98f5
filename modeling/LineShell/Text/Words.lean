import LineShell.Text.Basic

/-! Words of a text: its maximal runs free of blanks, where U+0020 alone is a blank. Every word is
nonempty and holds no blank. -/

namespace LineShell.Text

/-- The space is the only blank; tabs and other white space belong to words. -/
def notBlank (c : Char) : Bool := c != ' '

/-- The words of a text, in order. -/
def words : Text → List Text
  | [] => []
  | c :: cs =>
    if notBlank c then (c :: cs.takeWhile notBlank) :: words (cs.dropWhile notBlank)
    else words cs
termination_by t => t.length
decreasing_by
  · have := (List.dropWhile_sublist (l := cs) notBlank).length_le
    simp only [List.length_cons]
    omega
  · simp

/-- Words with one blank between neighbours. -/
def unwords : List Text → Text
  | [] => []
  | [w] => w
  | w :: ws => w ++ ' ' :: unwords ws

/-- A word is nonempty and free of blanks. -/
def IsWord (w : Text) : Prop := w ≠ [] ∧ ∀ c ∈ w, notBlank c

theorem isWord_of_mem_words {t w : Text} (h : w ∈ words t) : IsWord w := by
  fun_induction words t with
  | case1 => simp at h
  | case2 c cs hc ih =>
    rcases List.mem_cons.mp h with rfl | h
    · refine ⟨by simp, fun d hd => ?_⟩
      rcases List.mem_cons.mp hd with rfl | hd
      · exact hc
      · exact List.all_eq_true.mp List.all_takeWhile d hd
    · exact ih h
  | case3 c cs hc ih => exact ih h

end LineShell.Text
