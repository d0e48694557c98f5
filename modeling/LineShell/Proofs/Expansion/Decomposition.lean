import LineShell.Proofs.Words.Equations
import LineShell.Template

/-! # Decompositions of a line

A line is literal text with references in it, each as long as it can be. There is one way to take a
line apart like this, and the pieces that expansion works on are that way written as a list. -/

namespace LineShell

/-- A reference with the literal text behind it. -/
structure Reference where
  name : Text
  literal : Text
  deriving DecidableEq, Repr

/-- Literal text, then references with literal text behind each. -/
structure Decomposition where
  front : Text
  references : List Reference
  deriving DecidableEq, Repr

namespace Decomposition

/-- The text of a decomposition with a text in place of each reference. -/
def render (value : Text → Text) (d : Decomposition) : Text :=
  d.front ++ d.references.flatMap fun r => value r.name ++ r.literal

/-- The line that is taken apart. -/
def source (d : Decomposition) : Text := d.render ('$' :: ·)

/-- Literal text holds no `$`; a name is made of name characters and goes on to the first character
that is none. -/
structure IsMaximal (d : Decomposition) : Prop where
  front : '$' ∉ d.front
  name : ∀ r ∈ d.references, ∀ c ∈ r.name, Text.isNameChar c
  literal : ∀ r ∈ d.references, '$' ∉ r.literal
  munch : ∀ r ∈ d.references, ∀ c ∈ r.literal.head?, ¬ Text.isNameChar c

/-- The pieces of a decomposition in order. -/
def pieces (d : Decomposition) : List Piece :=
  .literal d.front :: d.references.flatMap fun r => [.reference r.name, .literal r.literal]

@[simp] theorem render_nil (value : Text → Text) (front : Text) :
    render value ⟨front, []⟩ = front := by
  simp [render]

@[simp] theorem render_cons (value : Text → Text) (front : Text) (r : Reference)
    (rs : List Reference) :
    render value ⟨front, r :: rs⟩ = front ++ (value r.name ++ render value ⟨r.literal, rs⟩) := by
  simp [render]

theorem isMaximal_nil {front : Text} (h : '$' ∉ front) : IsMaximal ⟨front, []⟩ := by
  constructor
  · exact h
  all_goals intro r hr; cases hr

/-- The literal text behind a reference is the front of what comes after it. -/
theorem isMaximal_cons_iff {front : Text} {r : Reference} {rs : List Reference} :
    IsMaximal ⟨front, r :: rs⟩ ↔
      '$' ∉ front ∧ (∀ c ∈ r.name, Text.isNameChar c) ∧
        (∀ c ∈ r.literal.head?, ¬ Text.isNameChar c) ∧ IsMaximal ⟨r.literal, rs⟩ := by
  constructor
  · rintro ⟨hfront, hname, hliteral, hmunch⟩
    rw [List.forall_mem_cons] at hname hliteral hmunch
    exact ⟨hfront, hname.1, hmunch.1, hliteral.1, hname.2, hliteral.2, hmunch.2⟩
  · rintro ⟨hfront, hname, hmunch, hrest⟩
    constructor
    · exact hfront
    · exact List.forall_mem_cons.mpr ⟨hname, hrest.name⟩
    · exact List.forall_mem_cons.mpr ⟨hrest.front, hrest.literal⟩
    · exact List.forall_mem_cons.mpr ⟨hmunch, hrest.munch⟩

end Decomposition

namespace Text

/-! ## Taking a line apart -/

/-- Takes a line apart from its end: a `$` makes a reference of the name characters behind it. -/
def decompose : Text → Decomposition
  | [] => ⟨[], []⟩
  | c :: cs =>
    let d := decompose cs
    if c = '$' then
      ⟨[], ⟨d.front.takeWhile isNameChar, d.front.dropWhile isNameChar⟩ :: d.references⟩
    else ⟨c :: d.front, d.references⟩

theorem not_isNameChar_dollar : ¬ isNameChar '$' := by decide

theorem not_isNameChar_blank : ¬ isNameChar ' ' := by decide

@[simp] theorem decompose_nil : decompose [] = ⟨[], []⟩ := rfl

theorem decompose_dollar (t : Text) :
    decompose ('$' :: t) = ⟨[], ⟨(decompose t).front.takeWhile isNameChar,
      (decompose t).front.dropWhile isNameChar⟩ :: (decompose t).references⟩ := by
  rw [decompose, if_pos rfl]

theorem decompose_of_ne {c : Char} (hc : c ≠ '$') (t : Text) :
    decompose (c :: t) = ⟨c :: (decompose t).front, (decompose t).references⟩ := by
  rw [decompose, if_neg hc]

/-- Literal text goes to the front of what follows it. -/
theorem decompose_literal_append {literal : Text} (h : '$' ∉ literal) (t : Text) :
    decompose (literal ++ t) = ⟨literal ++ (decompose t).front, (decompose t).references⟩ := by
  induction literal with
  | nil => rfl
  | cons c cs ih =>
      obtain ⟨hc, hcs⟩ := List.ne_and_not_mem_of_not_mem_cons h
      rw [List.cons_append, decompose_of_ne (Ne.symm hc), ih hcs, List.cons_append]

theorem decompose_of_not_mem {t : Text} (h : '$' ∉ t) : decompose t = ⟨t, []⟩ := by
  have hd := decompose_literal_append h []
  rwa [List.append_nil, decompose_nil, List.append_nil] at hd

/-- The front of a decomposition begins as the line does. -/
theorem head?_front_decompose {t : Text} {c : Char} (h : c ∈ (decompose t).front.head?) :
    c ∈ t.head? := by
  cases t with
  | nil => exact h
  | cons d t =>
      by_cases hd : d = '$'
      · rw [hd, decompose_dollar] at h
        simp at h
      · rw [decompose_of_ne hd] at h
        exact h

/-- A name that no name character follows is the name of the reference. -/
theorem decompose_reference {name t : Text} (hname : ∀ c ∈ name, isNameChar c)
    (ht : ∀ c ∈ t.head?, ¬ isNameChar c) :
    decompose ('$' :: (name ++ t)) =
      ⟨[], ⟨name, (decompose t).front⟩ :: (decompose t).references⟩ := by
  have hdollar : '$' ∉ name := fun h => not_isNameChar_dollar (hname '$' h)
  have hfront : ∀ c ∈ (decompose t).front.head?, ¬ isNameChar c :=
    fun c hc => ht c (head?_front_decompose hc)
  rw [decompose_dollar, decompose_literal_append hdollar, takeWhile_append_of_head? hname hfront,
    dropWhile_append_of_head? hname hfront]

/-! ## Existence and uniqueness -/

theorem source_decompose (t : Text) : (decompose t).source = t := by
  induction t with
  | nil => rfl
  | cons c t ih =>
      by_cases hc : c = '$'
      · rw [hc, decompose_dollar, Decomposition.source, Decomposition.render_cons,
          List.nil_append, List.cons_append]
        refine congrArg (List.cons '$') ?_
        rw [Decomposition.render, ← List.append_assoc, List.takeWhile_append_dropWhile]
        exact ih
      · rw [decompose_of_ne hc]
        exact congrArg (List.cons c) ih

theorem isMaximal_decompose (t : Text) : (decompose t).IsMaximal := by
  induction t with
  | nil => exact Decomposition.isMaximal_nil List.not_mem_nil
  | cons c t ih =>
      by_cases hc : c = '$'
      · rw [hc, decompose_dollar, Decomposition.isMaximal_cons_iff]
        refine ⟨List.not_mem_nil, ?_, ?_, ?_, ih.name, ih.literal, ih.munch⟩
        · exact fun d hd => List.mem_takeWhile_imp hd
        · exact fun d hd => not_of_mem_head?_dropWhile hd
        · exact fun h => ih.front ((List.dropWhile_sublist _).subset h)
      · rw [decompose_of_ne hc]
        exact ⟨List.not_mem_cons_of_ne_of_not_mem (Ne.symm hc) ih.front, ih.name, ih.literal, ih.munch⟩

end Text

namespace Decomposition

theorem source_cons (front : Text) (r : Reference) (rs : List Reference) :
    source ⟨front, r :: rs⟩ = front ++ '$' :: (r.name ++ source ⟨r.literal, rs⟩) := by
  simp [source]

/-- Behind a name stands its literal text, or the next `$`, or nothing. -/
theorem IsMaximal.not_isNameChar_behind {front : Text} {r : Reference} {rs : List Reference}
    (h : IsMaximal ⟨front, r :: rs⟩) :
    ∀ c ∈ (source ⟨r.literal, rs⟩).head?, ¬ Text.isNameChar c := by
  obtain ⟨-, -, hmunch, -⟩ := isMaximal_cons_iff.mp h
  intro c hc
  cases hl : r.literal with
  | cons l ls =>
      refine hmunch c ?_
      simpa [source, render, hl] using hc
  | nil =>
      cases rs with
      | nil => simp [source, hl] at hc
      | cons s rs =>
          have hc' : '$' = c := by simpa [source, hl] using hc
          rw [← hc']
          exact Text.not_isNameChar_dollar

/-- Taking the source of a decomposition apart gives the decomposition back. -/
theorem IsMaximal.decompose_source {d : Decomposition} (h : d.IsMaximal) :
    d.source.decompose = d := by
  obtain ⟨front, references⟩ := d
  induction references generalizing front with
  | nil =>
      rw [source, render_nil]
      exact Text.decompose_of_not_mem h.front
  | cons r rs ih =>
      obtain ⟨hfront, hname, -, htail⟩ := isMaximal_cons_iff.mp h
      rw [source_cons, Text.decompose_literal_append hfront,
        Text.decompose_reference hname h.not_isNameChar_behind, ih r.literal htail,
        List.append_nil]

end Decomposition

/-! ## Pieces -/

theorem Text.pieces_eq_decompose (t : Text) : t.pieces = t.decompose.pieces := by
  fun_induction pieces t with
  | case1 t h =>
      have hdollar : '$' ∉ t := by
        intro hmem
        have hnot := List.dropWhile_eq_nil_iff.mp h '$' hmem
        simp [notDollar] at hnot
      rw [decompose_of_not_mem hdollar]
      rfl
  | case2 t c after h ih =>
      have hdollar : '$' ∉ t.takeWhile notDollar := by
        intro hmem
        have hnot := List.mem_takeWhile_imp hmem
        simp [notDollar] at hnot
      have hname : ∀ c ∈ after.takeWhile isNameChar, isNameChar c :=
        fun c hc => List.mem_takeWhile_imp hc
      have hrest : ∀ c ∈ (after.dropWhile isNameChar).head?, ¬ isNameChar c :=
        fun c hc => not_of_mem_head?_dropWhile hc
      have hsplit : t = t.takeWhile notDollar ++
          '$' :: (after.takeWhile isNameChar ++ after.dropWhile isNameChar) := by
        rw [List.takeWhile_append_dropWhile, ← dropWhile_notDollar_head h, ← h,
          List.takeWhile_append_dropWhile]
      have hd : t.decompose = ⟨t.takeWhile notDollar,
          ⟨after.takeWhile isNameChar, (decompose (after.dropWhile isNameChar)).front⟩ ::
            (decompose (after.dropWhile isNameChar)).references⟩ := by
        conv => lhs; rw [hsplit]
        rw [decompose_literal_append hdollar, decompose_reference hname hrest, List.append_nil]
      rw [hd, ih]
      simp [Decomposition.pieces]

end LineShell
