import LineShell.Proofs.Expansion.Correctness

/-! # Substitution along concatenation

A character that can be in no name ends the reference in front of it, so a line may be cut there and
its parts be expanded one by one. A blank is such a character. So may a line be cut behind anything
but a reference. -/

namespace LineShell

namespace Text

/-! ## Cuts -/

/-- Text that ends in a reference, which a name character behind it would go on. -/
def EndsInReference (t : Text) : Prop :=
  ∃ front name, t = front ++ '$' :: name ∧ ∀ c ∈ name, isNameChar c

theorem EndsInReference.append {t : Text} (h : EndsInReference t) (s : Text) :
    EndsInReference (s ++ t) := by
  obtain ⟨front, name, rfl, hname⟩ := h
  exact ⟨s ++ front, name, by rw [List.append_assoc], hname⟩

/-- Seen from its end, such a text has a `$` behind its name characters. -/
theorem endsInReference_iff {t : Text} :
    EndsInReference t ↔ (t.reverse.dropWhile isNameChar).head? = some '$' := by
  constructor
  · rintro ⟨front, name, rfl, hname⟩
    have hreverse : ∀ c ∈ name.reverse, isNameChar c :=
      fun c hc => hname c (List.mem_reverse.mp hc)
    have hdollar : ∀ c ∈ ('$' :: front.reverse).head?, ¬ isNameChar c := by
      rintro c ⟨⟩
      exact not_isNameChar_dollar
    rw [List.reverse_append, List.reverse_cons, List.append_assoc, List.singleton_append,
      dropWhile_append_of_head? hreverse hdollar, List.head?_cons]
  · intro h
    obtain ⟨rest, hrest⟩ := List.head?_eq_some_iff.mp h
    refine ⟨rest.reverse, (t.reverse.takeWhile isNameChar).reverse, ?_, ?_⟩
    · have hsplit := List.takeWhile_append_dropWhile (p := isNameChar) (l := t.reverse)
      rw [hrest] at hsplit
      have hreverse := congrArg List.reverse hsplit
      simpa using hreverse.symm
    · exact fun c hc => List.mem_takeWhile_imp (List.mem_reverse.mp hc)

instance (t : Text) : Decidable (EndsInReference t) := decidable_of_iff _ endsInReference_iff.symm

/-- A cut between two texts splits no reference: no name character stands behind it, or no reference
in front of it. -/
def SplitsNoReference (s t : Text) : Prop :=
  (∀ c ∈ t.head?, ¬ isNameChar c) ∨ ¬ EndsInReference s

instance (s t : Text) : Decidable (SplitsNoReference s t) :=
  decidable_of_iff (t.head?.all (fun c => !isNameChar c) ∨ ¬ EndsInReference s)
    (or_congr_left (by simp [Option.all_eq_true]))

end Text

namespace Decomposition

/-- Puts a decomposition behind literal text and references: its front goes to the last literal
text. -/
def behind (e : Decomposition) (front : Text) : List Reference → Decomposition
  | [] => ⟨front ++ e.front, e.references⟩
  | r :: rs => ⟨front, ⟨r.name, (e.behind r.literal rs).front⟩ :: (e.behind r.literal rs).references⟩

theorem render_behind (value : Text → Text) (e : Decomposition) (front : Text)
    (rs : List Reference) :
    (e.behind front rs).render value = render value ⟨front, rs⟩ ++ e.render value := by
  induction rs generalizing front with
  | nil => simp [behind, render]
  | cons r rs ih => simp [behind, ih]

theorem IsMaximal.behind {e : Decomposition} {front : Text} {rs : List Reference}
    (h : IsMaximal ⟨front, rs⟩) (he : e.IsMaximal)
    (hseam : (∀ c ∈ e.front.head?, ¬ Text.isNameChar c) ∨
      ¬ Text.EndsInReference (source ⟨front, rs⟩)) : (e.behind front rs).IsMaximal := by
  induction rs generalizing front with
  | nil =>
      refine ⟨?_, he.name, he.literal, he.munch⟩
      intro hmem
      rcases List.mem_append.mp hmem with hmem | hmem
      · exact h.front hmem
      · exact he.front hmem
  | cons r rs ih =>
      obtain ⟨hfront, hname, hmunch, htail⟩ := isMaximal_cons_iff.mp h
      have hsource : source ⟨front, r :: rs⟩ =
          front ++ '$' :: r.name ++ source ⟨r.literal, rs⟩ := by
        rw [source_cons, ← List.cons_append, List.append_assoc]
      have hrest : (∀ c ∈ e.front.head?, ¬ Text.isNameChar c) ∨
          ¬ Text.EndsInReference (source ⟨r.literal, rs⟩) := by
        rw [hsource] at hseam
        exact hseam.imp_right fun hnot hend => hnot (hend.append _)
      refine isMaximal_cons_iff.mpr ⟨hfront, hname, ?_, ih htail hrest⟩
      intro c hc
      cases rs with
      | cons s rs => exact hmunch c hc
      | nil =>
          cases hl : r.literal with
          | cons l ls =>
              refine hmunch c ?_
              simpa [Decomposition.behind, hl] using hc
          | nil =>
              -- Here a name would go on behind the cut.
              have hend : Text.EndsInReference (source ⟨front, [r]⟩) :=
                ⟨front, r.name, by rw [hsource, hl]; exact List.append_nil _, hname⟩
              refine hseam.resolve_right (not_not_intro hend) c ?_
              simpa [Decomposition.behind, hl] using hc

end Decomposition

namespace Text

/-- Where a cut splits no reference, what is behind it is taken apart on its own. -/
theorem decompose_append {s t : Text} (hcut : SplitsNoReference s t) :
    decompose (s ++ t) = t.decompose.behind s.decompose.front s.decompose.references := by
  have hseam : (∀ c ∈ t.decompose.front.head?, ¬ isNameChar c) ∨
      ¬ EndsInReference s.decompose.source := by
    rw [source_decompose]
    exact hcut.imp_left fun h c hc => h c (head?_front_decompose hc)
  have hmax : (t.decompose.behind s.decompose.front s.decompose.references).IsMaximal :=
    (isMaximal_decompose s).behind (isMaximal_decompose t) hseam
  have hsource : (t.decompose.behind s.decompose.front s.decompose.references).source = s ++ t := by
    rw [Decomposition.source, Decomposition.render_behind]
    exact congrArg₂ (· ++ ·) (source_decompose s) (source_decompose t)
  rw [← hsource, hmax.decompose_source]

theorem substitute_append (value : Text → Text) {s t : Text} (hcut : SplitsNoReference s t) :
    (s ++ t).substitute value = s.substitute value ++ t.substitute value := by
  rw [substitute, decompose_append hcut, Decomposition.render_behind]
  rfl

theorem substitute_blank (value : Text → Text) (t : Text) :
    substitute value (' ' :: t) = ' ' :: t.substitute value := by
  rw [substitute, decompose_of_ne (by decide)]
  rfl

/-! ## Words of a line -/

theorem EndsWord.splitsNoReference {t : Text} (h : EndsWord t) (s : Text) :
    SplitsNoReference s t := by
  refine .inl fun c hc => ?_
  rw [h c hc]
  exact not_isNameChar_blank

theorem EndsWord.substitute {t : Text} (h : EndsWord t) (value : Text → Text) :
    EndsWord (t.substitute value) := by
  cases t with
  | nil => exact endsWord_nil
  | cons c t =>
      have hc : c = ' ' := h c rfl
      rw [hc, substitute_blank]
      exact endsWord_blank _

/-- The bytes of an expanded line are the blanks of the line and the bytes of its words, each
expanded on its own. -/
theorem size_substitute (value : Text → Text) (t : Text) :
    (t.substitute value).size =
      t.count ' ' + ((words t).map fun w => (w.substitute value).size).sum := by
  induction t using wordInduction with
  | nil => simp [substitute]
  | blank t ih =>
      rw [substitute_blank, size_blank, ih, words_blank, List.count_cons_self]
      omega
  | word w rest hw hr ih =>
      rw [substitute_append value (hr.splitsNoReference w), size_append, ih,
        words_word_append hw hr, List.map_cons, List.sum_cons, List.count_append,
        List.count_eq_zero.mpr hw.blank_not_mem]
      omega

/-- The words of an expanded line are those of its words, each expanded on its own. -/
theorem words_substitute (value : Text → Text) (t : Text) :
    words (t.substitute value) = (words t).flatMap fun w => words (w.substitute value) := by
  induction t using wordInduction with
  | nil => simp [substitute]
  | blank t ih => rw [substitute_blank, words_blank, words_blank, ih]
  | word w rest hw hr ih =>
      rw [substitute_append value (hr.splitsNoReference w), words_append _ (hr.substitute value), ih,
        words_word_append hw hr, List.flatMap_cons]

theorem substitute_unwords (value : Text → Text) (ts : List Text) :
    (unwords ts).substitute value = unwords (ts.map (substitute value)) := by
  fun_induction unwords ts with
  | case1 => rfl
  | case2 t => rfl
  | case3 t ts hts ih =>
      obtain ⟨u, us, rfl⟩ := List.exists_cons_of_ne_nil hts
      rw [substitute_append value ((endsWord_blank _).splitsNoReference t), substitute_blank, ih]
      rfl

end Text

/-! ## Expansion of a line in two parts -/

/-- Cut a line where this splits no reference. If both parts can be expanded, the line expands to the
two results, one behind the other, unless there is something to expand and they are too long
together. If one of the parts cannot be expanded, neither can the line, whatever the other part is. -/
theorem expand_append (store : Store) {s t : Text} (hcut : Text.SplitsNoReference s t) :
    (∀ x y, (expand store s).1 = some x → (expand store t).1 = some y →
      (expand store (s ++ t)).1 =
        if '$' ∉ s ++ t ∨ x.size + y.size ≤ 1023 then some (x ++ y) else none) ∧
    ((expand store s).1 = none ∨ (expand store t).1 = none → (expand store (s ++ t)).1 = none) := by
  have hsubstitute := Text.substitute_append store.value hcut
  constructor
  · intro x y hs ht
    obtain ⟨rfl, -⟩ := expand_eq_some_iff.mp hs
    obtain ⟨rfl, -⟩ := expand_eq_some_iff.mp ht
    rw [expand_result, hsubstitute, Text.size_append]
    by_cases hdollar : '$' ∈ s ++ t
    · by_cases hsize : (s.substitute store.value).size + (t.substitute store.value).size ≤ 1023
      · rw [if_neg fun h => Nat.not_lt.mpr hsize h.2, if_pos (.inr hsize)]
      · rw [if_pos ⟨hdollar, Nat.lt_of_not_ge hsize⟩,
          if_neg fun h => h.elim (absurd hdollar) hsize]
    · rw [if_neg fun h => hdollar h.1, if_pos (.inl hdollar)]
  · rw [expand_eq_none_iff, expand_eq_none_iff, expand_eq_none_iff, hsubstitute, Text.size_append]
    rintro (⟨hdollar, hsize⟩ | ⟨hdollar, hsize⟩)
    · exact ⟨List.mem_append_left t hdollar, Nat.lt_add_right _ hsize⟩
    · exact ⟨List.mem_append_right s hdollar, Nat.lt_add_left _ hsize⟩

/-- A cut behind literal text, in front of a letter. -/
theorem expand_append_at_letter :
    let store := Store.empty.insert "N".toList "v w".toList
    let s : Text := "$N-".toList
    let t : Text := "N$N".toList
    (Text.SplitsNoReference s t ∧ (expand store s).1 = some "v w-".toList ∧
      (expand store t).1 = some "Nv w".toList) ∧
    (expand store (s ++ t)).1 = some "v w-Nv w".toList := by
  intro store s t
  have hcut : Text.SplitsNoReference s t := by decide
  have hs : (expand store s).1 = some "v w-".toList := by decide +kernel
  have ht : (expand store t).1 = some "Nv w".toList := by decide +kernel
  have hfits : Text.size "v w-".toList + Text.size "Nv w".toList ≤ 1023 := by decide
  exact ⟨⟨hcut, hs, ht⟩, ((expand_append store hcut).1 _ _ hs ht).trans (if_pos (.inr hfits))⟩

/-- Behind a reference, a letter makes another one of it. -/
example :
    let store := Store.empty.insert "N".toList "v".toList
    ¬ Text.SplitsNoReference "$N".toList "N".toList ∧
      (expand store "$NN".toList).1 ≠ some "vN".toList := by
  decide +kernel

end LineShell
