import LineShell.Text.Cut
import LineShell.Text.Words
import Mathlib.Algebra.GroupWithZero.Nat
import Mathlib.Data.List.TakeWhile

/-! # Equations of words

Everything about words follows from what they do at a blank, so texts are taken apart there: a text
is empty, or it begins with a blank, or with a word that reaches to the next blank or to the end. -/

namespace LineShell.Text

/-! ## Taking a text apart at its blanks -/

/-- What is left after dropping begins with nothing that would have been dropped. -/
theorem not_of_mem_head?_dropWhile {α : Type*} {p : α → Bool} {l : List α} {a : α}
    (h : a ∈ (l.dropWhile p).head?) : ¬ p a := by
  have hhead := List.head?_dropWhile_not p l
  rw [Option.mem_def.mp h] at hhead
  simpa using hhead

section
variable {α : Type*} {p : α → Bool} {l m : List α} (hl : ∀ a ∈ l, p a)
  (hm : ∀ a ∈ m.head?, ¬ p a)
include hl hm

/-- What is taken goes on up to the first element without the property. -/
theorem takeWhile_append_of_head? : (l ++ m).takeWhile p = l := by
  have hend : m.takeWhile p = [] := by
    cases m with
    | nil => rfl
    | cons a m => exact List.takeWhile_cons_of_neg (hm a rfl)
  rw [List.takeWhile_append_of_pos hl, hend, List.append_nil]

theorem dropWhile_append_of_head? : (l ++ m).dropWhile p = m := by
  have hsplit := List.takeWhile_append_dropWhile (p := p) (l := l ++ m)
  rw [takeWhile_append_of_head? hl hm] at hsplit
  exact List.append_cancel_left hsplit

end

/-- Text that ends a word in front of it: it is empty or begins with a blank. -/
def EndsWord (t : Text) : Prop := ∀ c ∈ t.head?, c = ' '

theorem endsWord_nil : EndsWord [] := by
  simp [EndsWord]

theorem endsWord_blank (t : Text) : EndsWord (' ' :: t) := by
  simp [EndsWord]

theorem notBlank_iff {c : Char} : notBlank c ↔ c ≠ ' ' := by
  simp [notBlank]

theorem IsWord.blank_not_mem {w : Text} (hw : IsWord w) : ' ' ∉ w := by
  intro h
  exact notBlank_iff.mp (hw.2 ' ' h) rfl

theorem EndsWord.not_notBlank {t : Text} (h : EndsWord t) : ∀ c ∈ t.head?, ¬ notBlank c :=
  fun c hc hblank => notBlank_iff.mp hblank (h c hc)

@[simp] theorem words_nil : words [] = [] := by
  rw [words]

@[simp] theorem words_blank (t : Text) : words (' ' :: t) = words t := by
  rw [words, if_neg (by simp [notBlank])]

theorem words_word_append {w rest : Text} (hw : IsWord w) (hr : EndsWord rest) :
    words (w ++ rest) = w :: words rest := by
  cases w with
  | nil => exact absurd rfl hw.1
  | cons c cs =>
      have hcs : ∀ d ∈ cs, notBlank d := fun d hd => hw.2 d (List.mem_cons_of_mem c hd)
      rw [List.cons_append, words, if_pos (hw.2 c List.mem_cons_self),
        takeWhile_append_of_head? hcs hr.not_notBlank, dropWhile_append_of_head? hcs hr.not_notBlank]

/-- Induction along the words and blanks of a text. -/
@[elab_as_elim]
theorem wordInduction {motive : Text → Prop} (nil : motive [])
    (blank : ∀ t, motive t → motive (' ' :: t))
    (word : ∀ w rest, IsWord w → EndsWord rest → motive rest → motive (w ++ rest)) (t : Text) :
    motive t := by
  fun_induction words t with
  | case1 => exact nil
  | case2 c cs hc ih =>
      have hw : IsWord (c :: cs.takeWhile notBlank) := by
        refine ⟨List.cons_ne_nil _ _, ?_⟩
        intro d hd
        rcases List.mem_cons.mp hd with rfl | hd
        · exact hc
        · exact List.mem_takeWhile_imp hd
      have hr : EndsWord (cs.dropWhile notBlank) := by
        intro d hd
        simpa [notBlank] using not_of_mem_head?_dropWhile hd
      have h := word _ _ hw hr ih
      rwa [List.cons_append, List.takeWhile_append_dropWhile] at h
  | case3 c cs hc ih =>
      have hc' : c = ' ' := by simpa [notBlank] using hc
      rw [hc']
      exact blank cs ih

/-- Words of a text and of what follows it are kept apart by a blank. -/
theorem words_append (t : Text) {rest : Text} (hr : EndsWord rest) :
    words (t ++ rest) = words t ++ words rest := by
  induction t using wordInduction with
  | nil => simp
  | blank t ih => simpa using ih
  | word w t hw ht ih =>
      have hend : EndsWord (t ++ rest) := by
        cases t with
        | nil => exact hr
        | cons c t => exact ht
      rw [List.append_assoc, words_word_append hw hend, words_word_append hw ht, ih,
        List.cons_append]

theorem words_of_isWord {w : Text} (hw : IsWord w) : words w = [w] := by
  have h := words_word_append hw endsWord_nil
  rwa [List.append_nil, words_nil] at h

theorem mem_of_mem_words {t w : Text} (hw : w ∈ words t) {c : Char} (hc : c ∈ w) : c ∈ t := by
  induction t using wordInduction with
  | nil => simp at hw
  | blank t ih =>
      rw [words_blank] at hw
      exact List.mem_cons_of_mem _ (ih hw)
  | word v rest hv hr ih =>
      rw [words_word_append hv hr] at hw
      rcases List.mem_cons.mp hw with rfl | hw
      · exact List.mem_append_left rest hc
      · exact List.mem_append_right v (ih hw)

/-- The maximal runs of a text without a blank: what lies between its blanks, where that is
something. -/
def runs (t : Text) : List Text := (cut ' ' t).filter (· ≠ [])

theorem cut_append {c : Char} {w : Text} (hw : c ∉ w) (rest : Text) :
    cut c (w ++ rest) = (cut c rest).modifyHead (w ++ ·) := by
  induction w with
  | nil =>
      obtain ⟨part, parts, hc⟩ := List.exists_cons_of_ne_nil (cut_ne_nil c rest)
      rw [List.nil_append, hc, List.modifyHead_cons, List.nil_append]
  | cons d ds ih =>
      obtain ⟨hd, hds⟩ := List.ne_and_not_mem_of_not_mem_cons hw
      obtain ⟨part, parts, hc⟩ := List.exists_cons_of_ne_nil (cut_ne_nil c rest)
      rw [List.cons_append, cut, if_neg (Ne.symm hd), ih hds, hc]
      rfl

theorem words_eq_runs (t : Text) : words t = runs t := by
  induction t using wordInduction with
  | nil => simp [runs, cut]
  | blank t ih =>
      rw [words_blank, ih, runs, runs, cut, if_pos rfl, List.filter_cons_of_neg (by simp)]
  | word w rest hw hr ih =>
      rw [words_word_append hw hr, ih, runs, runs, cut_append hw.blank_not_mem]
      cases rest with
      | nil => simp [cut, hw.1]
      | cons c t =>
          have hc : c = ' ' := hr c rfl
          rw [hc, cut, if_pos rfl, List.modifyHead_cons, List.append_nil,
            List.filter_cons_of_neg (by simp), List.filter_cons_of_pos (by simpa using hw.1)]

/-! ## Sizes and numbers -/

@[simp] theorem size_blank (t : Text) : size (' ' :: t) = size t + 1 := by
  rw [size_cons, Nat.add_comm]
  rfl

/-- The bytes of a text are those of its words and its blanks. -/
theorem sum_size_words (t : Text) : ((words t).map size).sum + t.count ' ' = size t := by
  induction t using wordInduction with
  | nil => simp
  | blank t ih =>
      rw [words_blank, List.count_cons_self, size_blank]
      omega
  | word w rest hw hr ih =>
      rw [words_word_append hw hr, List.map_cons, List.sum_cons, List.count_append,
        List.count_eq_zero.mpr hw.blank_not_mem, size_append]
      omega

/-- Neighbouring words take a blank between them, and a text that ends a word takes one more. -/
theorem length_words_le_count (t : Text) :
    (words t).length ≤ t.count ' ' + 1 ∧ (EndsWord t → (words t).length ≤ t.count ' ') := by
  induction t using wordInduction with
  | nil => simp
  | blank t ih =>
      rw [words_blank, List.count_cons_self]
      exact ⟨by omega, fun _ => ih.1⟩
  | word w rest hw hr ih =>
      rw [words_word_append hw hr, List.count_append, List.count_eq_zero.mpr hw.blank_not_mem,
        List.length_cons]
      refine ⟨by have := ih.2 hr; omega, ?_⟩
      intro h
      obtain ⟨c, cs, rfl⟩ := List.exists_cons_of_ne_nil hw.1
      exact absurd (h c rfl) (notBlank_iff.mp (hw.2 c List.mem_cons_self))

theorem size_unwords (ws : List Text) :
    size (unwords ws) = (ws.map size).sum + (ws.length - 1) := by
  fun_induction unwords ws with
  | case1 => rfl
  | case2 w => simp
  | case3 w ws hws ih =>
      obtain ⟨v, vs, rfl⟩ := List.exists_cons_of_ne_nil hws
      rw [size_append, size_blank, ih]
      simp only [List.map_cons, List.sum_cons, List.length_cons]
      omega

/-- The words of a text, with one blank between neighbours, take no more room than the text. -/
theorem size_unwords_words_le (t : Text) : size (unwords (words t)) ≤ size t := by
  have hsum := sum_size_words t
  have hcount := (length_words_le_count t).1
  rw [size_unwords]
  omega

/-! ## Words between blanks -/

/-- A text that consists of other texts in order, with blanks between and around them: at least one
between neighbours, and any number in front and behind. -/
inductive Spaced : List Text → Text → Prop
  | nil : Spaced [] []
  | blank {ws : List Text} {t : Text} : Spaced ws t → Spaced ws (' ' :: t)
  | last (w : Text) : Spaced [w] w
  | next (w : Text) {ws : List Text} {t : Text} : Spaced ws t → Spaced (w :: ws) (w ++ ' ' :: t)

theorem spaced_unwords (ws : List Text) : Spaced ws (unwords ws) := by
  fun_induction unwords ws with
  | case1 => exact .nil
  | case2 w => exact .last w
  | case3 w ws hws ih => exact .next w ih

theorem flatMap_words {ws : List Text} (h : ∀ w ∈ ws, IsWord w) : ws.flatMap words = ws := by
  induction ws with
  | nil => rfl
  | cons w ws ih =>
      obtain ⟨hw, hws⟩ := List.forall_mem_cons.mp h
      rw [List.flatMap_cons, words_of_isWord hw, ih hws, List.singleton_append]

namespace Spaced

variable {ws : List Text} {t : Text}

theorem words_eq_flatMap (h : Spaced ws t) : words t = ws.flatMap words := by
  induction h with
  | nil => exact words_nil
  | blank _ ih => rw [words_blank, ih]
  | last w => rw [List.flatMap_singleton]
  | next w _ ih => rw [words_append w (endsWord_blank _), words_blank, ih, List.flatMap_cons]

theorem words_eq (h : Spaced ws t) (hword : ∀ w ∈ ws, IsWord w) : words t = ws := by
  rw [h.words_eq_flatMap, flatMap_words hword]

theorem mem {c : Char} (h : Spaced ws t) (hc : c ∈ t) : c = ' ' ∨ ∃ w ∈ ws, c ∈ w := by
  induction h with
  | nil => cases hc
  | blank _ ih =>
      rcases List.mem_cons.mp hc with hc | hc
      · exact .inl hc
      · exact ih hc
  | last w => exact .inr ⟨w, List.mem_cons_self, hc⟩
  | next w _ ih =>
      rcases List.mem_append.mp hc with hc | hc
      · exact .inr ⟨w, List.mem_cons_self, hc⟩
      · rcases List.mem_cons.mp hc with hc | hc
        · exact .inl hc
        · rcases ih hc with hc | ⟨v, hv, hc⟩
          · exact .inl hc
          · exact .inr ⟨v, List.mem_cons_of_mem w hv, hc⟩

theorem dollar_not_mem (h : Spaced ws t) (hws : ∀ w ∈ ws, '$' ∉ w) : '$' ∉ t := by
  intro hmem
  rcases h.mem hmem with hmem | ⟨w, hw, hmem⟩
  · exact absurd hmem (by decide)
  · exact hws w hw hmem

end Spaced

/-- Words come back from the text that they are joined to. -/
theorem words_unwords {ws : List Text} (h : ∀ w ∈ ws, IsWord w) : words (unwords ws) = ws :=
  (spaced_unwords ws).words_eq h

end LineShell.Text
