import LineShell.Error
import LineShell.Text.Words

/-! # Equations of the store -/

namespace LineShell

theorem Builtin.ofName?_eq_some_iff {name : Text} {b : Builtin} :
    ofName? name = some b ↔ name = b.name := by
  constructor
  · intro h
    have hname := List.find?_some h
    exact (beq_iff_eq.mp hname).symm
  · rintro rfl
    cases b <;> rfl

namespace Store

/-- A store is its list of bindings. -/
theorem eq_of_bindings {s t : Store} (h : s.bindings = t.bindings) : s = t := by
  cases s
  cases t
  cases h
  rfl

theorem get?_eq_some_iff {s : Store} {name value : Text} :
    s.get? name = some value ↔ (name, value) ∈ s.bindings := by
  obtain ⟨bindings, distinct⟩ := s
  simp only [get?]
  induction bindings with
  | nil => simp
  | cons b rest ih =>
      obtain ⟨key, old⟩ := b
      obtain ⟨hkey, hrest⟩ := List.nodup_cons.mp distinct
      rw [List.lookup_cons, List.mem_cons]
      by_cases h : name = key
      · -- No later binding has the name of the first one.
        subst h
        have hnot : (name, value) ∉ rest := fun hmem => hkey (List.mem_map.mpr ⟨_, hmem, rfl⟩)
        simp [hnot, eq_comm]
      · rw [beq_false_of_ne h]
        simp [ih hrest, h]

/-- Binding an unbound name puts it in front. -/
theorem bindings_insert_of_not_mem {s : Store} {name : Text}
    (h : name ∉ s.bindings.map Prod.fst) (value : Text) :
    (s.insert name value).bindings = (name, value) :: s.bindings := by
  have hkeep : (s.erase name).bindings = s.bindings := by
    refine List.filter_eq_self.mpr ?_
    intro b hb
    have hne : b.1 ≠ name := fun hb' => h (hb' ▸ List.mem_map_of_mem hb)
    simpa using hne
  exact congrArg (List.cons (name, value)) hkeep

/-- A binding is accepted if the name is nonempty and neither it nor the value is too long. -/
theorem set_eq_ok_iff {s t : Store} {name value : Text} :
    s.set name value = .ok t ↔
      name ≠ [] ∧ name.size ≤ maxName ∧ value.size ≤ maxValue ∧ t = s.insert name value := by
  rw [set, check]
  by_cases hempty : name = []
  · simp [hempty, Except.map]
  · by_cases hname : name.size > maxName
    · simp [hempty, hname, Nat.not_le.mpr hname, Except.map]
    · by_cases hvalue : value.size > maxValue
      · simp [hempty, hname, hvalue, Nat.not_le.mpr hvalue, Except.map]
      · simp [hempty, hname, hvalue, Nat.le_of_not_lt hname, Nat.le_of_not_lt hvalue, Except.map,
          eq_comm]

/-- Whether a binding is accepted does not depend on the variables. -/
theorem set_eq_error_iff {s : Store} {name value : Text} {e : StoreError} :
    s.set name value = .error e ↔ check name value = .error e := by
  rw [set]
  cases check name value with
  | error reason => simp [Except.map]
  | ok done => simp [Except.map]

/-! ## Commands and the store -/

/-- What `set` does to the variables: it binds a name to the words behind it, if the binding is
acceptable. -/
def setWords (s : Store) : List Text → Store
  | name :: word :: words =>
    match s.set name (Text.unwords (word :: words)) with
    | .error _ => s
    | .ok t => t
  | _ => s

/-- What `unset` does to the variables. -/
def unsetWords (s : Store) : List Text → Store
  | [name] => s.erase name
  | _ => s

/-- What a command does to the variables: only `set` and `unset` touch them. -/
def update (s : Store) : List Text → Store
  | [] => s
  | command :: args =>
    match Builtin.ofName? command with
    | some .set => s.setWords args
    | some .unset => s.unsetWords args
    | some .cd | some .pwd | none => s

theorem update_set (s : Store) (args : List Text) :
    s.update (Builtin.set.name :: args) = s.setWords args := rfl

/-- A command leaves the variables as they are, or binds one, or removes one. -/
theorem update_cases (s : Store) (words : List Text) :
    s.update words = s ∨
      (∃ name word rest, words = Builtin.set.name :: name :: word :: rest ∧
        s.set name (Text.unwords (word :: rest)) = .ok (s.update words)) ∨
      ∃ name, words = [Builtin.unset.name, name] ∧ s.update words = s.erase name := by
  cases words with
  | nil => exact .inl rfl
  | cons command args =>
      cases h : Builtin.ofName? command with
      | none => exact .inl (by simp [update, h])
      | some b =>
          obtain rfl := Builtin.ofName?_eq_some_iff.mp h
          cases b with
          | cd => exact .inl rfl
          | pwd => exact .inl rfl
          | set =>
              rw [update_set]
              fun_cases setWords s args with
              | case1 name word rest e hset => exact .inl rfl
              | case2 name word rest t hset => exact .inr (.inl ⟨name, word, rest, rfl, hset⟩)
              | case3 => exact .inl rfl
          | unset =>
              rcases args with _ | ⟨name, _ | ⟨word, rest⟩⟩
              · exact .inl rfl
              · exact .inr (.inr ⟨name, rfl, rfl⟩)
              · exact .inl rfl

end Store

end LineShell
