import LineShell.Proofs.Expansion.Correctness

/-! # Records of expansion

Expansion records the unbound references that it comes to, and it comes to a reference as long as the
text in front of it, with the values in it, is within the limit. So the records are known from the
references and what they stand for, whether the line becomes too long or not. -/

namespace LineShell

namespace Decomposition

/-- The bytes of the text in front of a reference, with a text in place of each reference before
it. -/
def sizeBefore (value : Text → Text) (d : Decomposition) (i : Nat) : Nat :=
  d.front.size + ((d.references.take i).map fun r => (value r.name).size + r.literal.size).sum

/-- A reference, with the number of those before it, is unbound and the text in front of it is within
the limit. -/
def MeetsUnbound (lookup : Text → Option Text) (d : Decomposition) (r : Reference × Nat) : Prop :=
  lookup r.1.name = none ∧ d.sizeBefore (fun name => (lookup name).getD []) r.2 ≤ 1023

instance (lookup : Text → Option Text) (d : Decomposition) (r : Reference × Nat) :
    Decidable (d.MeetsUnbound lookup r) :=
  inferInstanceAs (Decidable (_ ∧ _))

/-- The names of these references in order. -/
def unbound (lookup : Text → Option Text) (d : Decomposition) : List Text :=
  (d.references.zipIdx.filter fun r => d.MeetsUnbound lookup r).map fun r => r.1.name

/-! ## Text in front of references -/

section
variable {value : Text → Text} {lookup : Text → Option Text} {front : Text} {r : Reference}
  {rs : List Reference}

theorem sizeBefore_zero (d : Decomposition) : d.sizeBefore value 0 = d.front.size := by
  rw [sizeBefore, List.take_zero, List.map_nil, List.sum_nil, Nat.add_zero]

theorem size_front_le_sizeBefore (d : Decomposition) (i : Nat) :
    d.front.size ≤ d.sizeBefore value i :=
  Nat.le_add_right _ _

/-- In front of a later reference, what the first one stands for is as good as literal text. -/
theorem sizeBefore_succ (i : Nat) :
    sizeBefore value ⟨front, r :: rs⟩ (i + 1) =
      sizeBefore value ⟨front ++ value r.name ++ r.literal, rs⟩ i := by
  simp only [sizeBefore, List.take_succ_cons, List.map_cons, List.sum_cons, Text.size_append]
  omega

theorem meetsUnbound_zero : MeetsUnbound lookup ⟨front, rs⟩ (r, 0) ↔
    lookup r.name = none ∧ front.size ≤ maxLine := by
  rw [MeetsUnbound, sizeBefore_zero]
  rfl

theorem meetsUnbound_succ (s : Reference) (i : Nat) :
    MeetsUnbound lookup ⟨front, r :: rs⟩ (s, i + 1) ↔
      MeetsUnbound lookup ⟨front ++ (lookup r.name).getD [] ++ r.literal, rs⟩ (s, i) := by
  rw [MeetsUnbound, MeetsUnbound, sizeBefore_succ]

@[simp] theorem unbound_nil : unbound lookup ⟨front, []⟩ = [] := rfl

/-- No reference is come to behind a text that is too long. -/
theorem unbound_of_outgrown {d : Decomposition} (h : maxLine < d.front.size) :
    d.unbound lookup = [] := by
  rw [unbound, List.map_eq_nil_iff, List.filter_eq_nil_iff]
  rintro ⟨s, i⟩ - hmeets
  obtain ⟨-, hfits⟩ := of_decide_eq_true hmeets
  exact Nat.not_le.mpr h ((d.size_front_le_sizeBefore i).trans hfits)

theorem unbound_cons : unbound lookup ⟨front, r :: rs⟩ =
    (if lookup r.name = none ∧ front.size ≤ maxLine then [r.name] else []) ++
      unbound lookup ⟨front ++ (lookup r.name).getD [] ++ r.literal, rs⟩ := by
  have hlater : (fun s => decide (MeetsUnbound lookup ⟨front, r :: rs⟩ s)) ∘ Prod.map id (· + 1) =
      fun s => decide (MeetsUnbound lookup ⟨front ++ (lookup r.name).getD [] ++ r.literal, rs⟩ s) :=
    funext fun s => decide_eq_decide.mpr (meetsUnbound_succ s.1 s.2)
  rw [unbound, List.zipIdx_cons', List.filter_cons, List.filter_map, hlater]
  simp only [decide_eq_true_eq, meetsUnbound_zero]
  by_cases h : lookup r.name = none ∧ front.size ≤ maxLine
  · rw [if_pos h, if_pos h]
    simp [unbound]
  · rw [if_neg h, if_neg h]
    simp [unbound]

end

end Decomposition

/-! ## Filling -/

theorem events_fill_of_unbound {store : Store} {name : Text} (h : store.get? name = none)
    (buffer : Text) (rest : List Piece) :
    (fill store buffer (.reference name :: rest)).2 =
      .unsetReference name :: (fill store buffer rest).2 := by
  simp only [fill, h]

/-- What is recorded while a text is filled that has something in it already. -/
theorem events_fill (store : Store) (buffer front : Text) (rs : List Reference) :
    (fill store buffer (Decomposition.pieces ⟨front, rs⟩)).2 =
      (Decomposition.unbound store.get? ⟨buffer ++ front, rs⟩).map .unsetReference := by
  induction rs generalizing buffer front with
  | nil =>
      have hpieces : Decomposition.pieces ⟨front, []⟩ = [.literal front] := rfl
      by_cases hfit : buffer.size + front.size ≤ maxLine
      · rw [hpieces, fill_of_fits rfl hfit]
        rfl
      · rw [hpieces, fill_of_outgrows rfl hfit]
        rfl
  | cons r rs ih =>
      have hpieces : Decomposition.pieces ⟨front, r :: rs⟩ =
          .literal front :: .reference r.name :: Decomposition.pieces ⟨r.literal, rs⟩ := rfl
      rw [hpieces]
      by_cases hfront : buffer.size + front.size ≤ maxLine
      · rw [fill_of_fits rfl hfront, Decomposition.unbound_cons]
        cases hget : store.get? r.name with
        | none =>
            rw [events_fill_of_unbound hget, ih, if_pos ⟨rfl, by rwa [Text.size_append]⟩]
            simp
        | some value =>
            have htext : (Piece.reference r.name).text? store = some value := hget
            by_cases hvalue : (buffer ++ front).size + value.size ≤ maxLine
            · rw [fill_of_fits htext hvalue, ih]
              simp
            · -- The value does not fit, so the text in front of the other references is too long.
              have hlong : maxLine < (buffer ++ front ++ value ++ r.literal).size := by
                simp only [Text.size_append] at hvalue ⊢
                omega
              rw [fill_of_outgrows htext hvalue, Option.getD_some,
                Decomposition.unbound_of_outgrown hlong]
              simp
      · have hlong : maxLine < (buffer ++ front).size := by
          rw [Text.size_append]
          omega
        rw [fill_of_outgrows rfl hfront, Decomposition.unbound_of_outgrown hlong]
        rfl

/-! ## Expansion -/

/-- The records of unbound names and, behind them, that of the result if there is one. -/
def expansionRecords (line : Text) (names : List Text) (result : Option Text) : List Event :=
  names.map .unsetReference ++ result.toList.map (.expanded line)

section
variable (line : Text) (names : List Text) (result : Option Text)

theorem filter_trace_expansionRecords :
    (expansionRecords line names result).filter (·.level = .trace) =
      names.map .unsetReference := by
  have htraces : ∀ e ∈ names.map Event.unsetReference, decide (e.level = .trace) := by
    simp [Event.level]
  have hdebugs : ∀ e ∈ result.toList.map (Event.expanded line), ¬ decide (e.level = .trace) := by
    simp [Event.level]
  rw [expansionRecords, List.filter_append, List.filter_eq_self.mpr htraces,
    List.filter_eq_nil_iff.mpr hdebugs, List.append_nil]

theorem filter_debug_expansionRecords :
    (expansionRecords line names result).filter (·.level = .debug) =
      result.toList.map (.expanded line) := by
  have htraces : ∀ e ∈ names.map Event.unsetReference, ¬ decide (e.level = .debug) := by
    simp [Event.level]
  have hdebugs : ∀ e ∈ result.toList.map (Event.expanded line), decide (e.level = .debug) := by
    simp [Event.level]
  rw [expansionRecords, List.filter_append, List.filter_eq_nil_iff.mpr htraces,
    List.filter_eq_self.mpr hdebugs, List.nil_append]

end

theorem events_scan (store : Store) (line : Text) :
    (scan store line).2 =
      expansionRecords line (line.decompose.unbound store.get?) (scan store line).1 := by
  have hfill := events_fill store [] line.decompose.front line.decompose.references
  rw [List.nil_append, ← Text.pieces_eq_decompose] at hfill
  rw [expansionRecords, ← hfill, scan]
  rcases fill store [] line.pieces with ⟨_ | result, events⟩
  · exact (List.append_nil events).symm
  · rfl

/-- A line without references leaves no records. -/
theorem events_expand (store : Store) (line : Text) :
    (expand store line).2 = expansionRecords line (line.decompose.unbound store.get?)
      (if '$' ∈ line then (expand store line).1 else none) := by
  by_cases h : '$' ∈ line
  · rw [if_pos h, expand_of_mem store h]
    exact events_scan store line
  · rw [if_neg h, expand_of_not_mem store h, Text.decompose_of_not_mem h]
    rfl

/-- What expansion answers and records, from what each name stands for and nothing else. -/
def Text.expansion (lookup : Text → Option Text) (line : Text) : Option Text × List Event :=
  let text := line.substitute fun name => (lookup name).getD []
  let result := if '$' ∈ line ∧ maxLine < text.size then none else some text
  (result, expansionRecords line (line.decompose.unbound lookup) (if '$' ∈ line then result else none))

theorem expand_eq_expansion (store : Store) (line : Text) :
    expand store line = line.expansion store.get? := by
  refine Prod.ext (expand_result store line) ?_
  rw [events_expand, expand_result]
  rfl

/-- Every line has one maximal decomposition. The traces of its expansion are those of the unbound names
in order, as far as the text in front of the reference, with the values of the references before it,
takes at most 1023 bytes. Behind them comes one more record, of the line and its result, exactly if there
is a `$` in the line and expansion succeeds. A line without `$` leaves no records. -/
theorem expand_records (store : Store) (line : Text) :
    ∃ d : Decomposition, d.source = line ∧ d.IsMaximal ∧
      (∀ e : Decomposition, e.source = line → e.IsMaximal → e = d) ∧
      let result := (expand store line).1
      let events := (expand store line).2
      let traces := events.filter (·.level = .trace)
      let debugs := events.filter (·.level = .debug)
      traces = (d.unbound store.get?).map .unsetReference ∧
        (∀ name, (Event.unsetReference name).message =
          "expand: $".toList ++ name ++ " is unset".toList) ∧
        debugs = (if '$' ∈ line then result else none).toList.map (.expanded line) ∧
        events = traces ++ debugs ∧
        ('$' ∉ line → events = []) := by
  refine ⟨line.decompose, Text.source_decompose line, Text.isMaximal_decompose line, ?_, ?_⟩
  · intro e hsource hmax
    rw [← hsource, hmax.decompose_source]
  · intro result events traces debugs
    have hevents := events_expand store line
    have htraces : traces = (line.decompose.unbound store.get?).map .unsetReference := by
      rw [← filter_trace_expansionRecords, ← hevents]
    have hdebugs : debugs = (if '$' ∈ line then result else none).toList.map (.expanded line) := by
      rw [← filter_debug_expansionRecords, ← hevents]
    refine ⟨htraces, fun _ => rfl, hdebugs, ?_, ?_⟩
    · rw [htraces, hdebugs]
      exact hevents
    · intro h
      exact congrArg Prod.snd (expand_of_not_mem store h)

end LineShell
