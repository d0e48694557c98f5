import LineShell.Proofs.Session.Equations

/-! # Reachable stores

A session on a new interpreter keeps the variables well formed, and every well-formed store comes
out of some session: one line for each binding builds it. -/

namespace LineShell

open Text

/-- A word that no line can take apart: it holds no blank, and no `$` either. -/
def IsPlain (w : Text) : Prop := IsWord w ∧ '$' ∉ w

/-- A name that a variable of a session can have. -/
def IsStoredName (name : Text) : Prop := IsPlain name ∧ name.size ≤ 255

/-- A value that a variable of a session can have: plain words, up to 126 of them, with one blank
between neighbours. -/
def IsStoredValue (value : Text) : Prop :=
  ∃ ws : List Text, 1 ≤ ws.length ∧ ws.length ≤ 126 ∧ (∀ w ∈ ws, IsPlain w) ∧
    value = unwords ws ∧ value.size ≤ 255

/-- Every binding has a name and a value of the kinds that sessions make. -/
def Store.WellFormed (s : Store) : Prop :=
  ∀ name value, s.get? name = some value → IsStoredName name ∧ IsStoredValue value

/-! ## Sessions keep stores well formed -/

namespace Store.WellFormed

variable {s : Store} {name value : Text}

theorem empty : Store.empty.WellFormed := by
  intro name value h
  cases h

theorem insert (hs : s.WellFormed) (hname : IsStoredName name) (hvalue : IsStoredValue value) :
    (s.insert name value).WellFormed := by
  intro other found h
  rw [get?_insert] at h
  by_cases ho : other = name
  · rw [if_pos ho] at h
    rw [ho, ← Option.some.inj h]
    exact ⟨hname, hvalue⟩
  · rw [if_neg ho] at h
    exact hs other found h

theorem erase (hs : s.WellFormed) (name : Text) : (s.erase name).WellFormed := by
  intro other found h
  rw [get?_erase] at h
  by_cases ho : other = name
  · rw [if_pos ho] at h
    cases h
  · rw [if_neg ho] at h
    exact hs other found h

/-- Values that a session makes bring no `$` into a line. -/
theorem dollar_not_mem_value (hs : s.WellFormed) (name : Text) : '$' ∉ s.value name := by
  rw [value]
  cases h : s.get? name with
  | none => simp
  | some found =>
      obtain ⟨ws, -, -, hplain, rfl, -⟩ := (hs name found h).2
      exact (spaced_unwords ws).dollar_not_mem fun w hw => (hplain w hw).2

/-- So the words of a prepared line are plain. -/
theorem isPlain_of_prepare (hs : s.WellFormed) {line : Text} {ws : List Text}
    (h : (prepare s line).1 = .ok ws) : ∀ w ∈ ws, IsPlain w := by
  obtain ⟨-, -, rfl, -⟩ := prepare_eq_ok_iff.mp h
  intro w hw
  refine ⟨isWord_of_mem_words hw, ?_⟩
  exact fun hmem => dollar_not_mem_substitute hs.dollar_not_mem_value line (mem_of_mem_words hw hmem)

/-- Plain words are stored by `set` as they are; two of the words of the line are the command and
the name. -/
theorem update (hs : s.WellFormed) {ws : List Text} (hplain : ∀ w ∈ ws, IsPlain w)
    (hlength : ws.length ≤ maxWords) : (s.update ws).WellFormed := by
  rcases s.update_cases ws with h | ⟨name, word, rest, rfl, h⟩ | ⟨name, rfl, h⟩
  · rwa [h]
  · obtain ⟨-, hname, hvalue, h⟩ := set_eq_ok_iff.mp h
    rw [h]
    refine hs.insert ⟨hplain name (by simp), hname⟩ ⟨word :: rest, ?_, ?_, ?_, rfl, hvalue⟩
    · simp
    · simp only [List.length_cons, maxWords] at hlength ⊢
      omega
    · intro w hw
      exact hplain w (List.mem_cons_of_mem _ (List.mem_cons_of_mem _ hw))
  · rw [h]
    exact hs.erase name

theorem afterLine (hs : s.WellFormed) (line : Text) : (s.afterLine line).WellFormed := by
  rw [Store.afterLine]
  split
  · exact hs
  · cases h : (prepare s line).1 with
    | error e => exact hs
    | ok ws =>
        have hlength := (prepare_eq_ok_iff.mp h).2.2.2
        exact hs.update (hs.isPlain_of_prepare h) hlength

theorem foldl_afterLine (hs : s.WellFormed) (lines : List Text) :
    (lines.foldl Store.afterLine s).WellFormed := by
  induction lines generalizing s with
  | nil => exact hs
  | cons line lines ih => exact ih (hs.afterLine line)

end Store.WellFormed

/-- The variables are well formed after every session on a new interpreter. -/
theorem Shell.wellFormed_session {Files Dir : Type} [Host Files Dir] (files : Files) (dir : Dir)
    (environment : Environment) (lines : List Text) :
    ((start files dir environment).session lines).store.WellFormed := by
  rw [store_session]
  exact Store.WellFormed.empty.foldl_afterLine lines

/-! ## Every well-formed store is reached -/

/-- The line that binds a variable. -/
def bindingLine (binding : Text × Text) : Text :=
  Builtin.set.name ++ ' ' :: (binding.1 ++ ' ' :: binding.2)

theorem isPlain_set : IsPlain Builtin.set.name := by
  have hall : Builtin.set.name.all notBlank := by decide
  exact ⟨⟨by decide, List.all_eq_true.mp hall⟩, by decide⟩

theorem size_set : size Builtin.set.name = 3 := by decide

theorem isPlain_binding {name : Text} {words : List Text} (hname : IsPlain name)
    (hwords : ∀ w ∈ words, IsPlain w) : ∀ w ∈ Builtin.set.name :: name :: words, IsPlain w :=
  List.forall_mem_cons.mpr ⟨isPlain_set, List.forall_mem_cons.mpr ⟨hname, hwords⟩⟩

theorem isExit_bindingLine (binding : Text × Text) : isExit (bindingLine binding) = false := rfl

/-- No limit gets in the way of the line that binds a variable. -/
theorem prepare_bindingLine (s : Store) {name : Text} (hname : IsStoredName name)
    {words : List Text} (hlength : words.length ≤ 126) (hne : words ≠ [])
    (hplain : ∀ w ∈ words, IsPlain w) (hsize : (unwords words).size ≤ 255) :
    (prepare s (bindingLine (name, unwords words))).1 = .ok (Builtin.set.name :: name :: words) := by
  have hline : bindingLine (name, unwords words) = unwords (Builtin.set.name :: name :: words) := by
    cases words with
    | nil => exact absurd rfl hne
    | cons word words => rfl
  have hall := isPlain_binding hname.1 hplain
  have hfits : size (bindingLine (name, unwords words)) ≤ maxLine := by
    have hname := hname.2
    rw [bindingLine, size_append, size_blank, size_append, size_blank, size_set, maxLine]
    dsimp only
    omega
  rw [hline] at hfits ⊢
  refine prepare_unwords s (fun w hw => (hall w hw).1) (fun w hw => (hall w hw).2) hfits ?_
  simp only [List.length_cons, maxWords]
  omega

theorem afterLine_bindingLine (s : Store) {name value : Text} (hname : IsStoredName name)
    (hvalue : IsStoredValue value) :
    s.afterLine (bindingLine (name, value)) = s.insert name value := by
  obtain ⟨words, hpos, hlength, hplain, rfl, hsize⟩ := hvalue
  obtain ⟨word, words, rfl⟩ := List.exists_cons_of_length_pos hpos
  have hprepare := prepare_bindingLine s hname hlength (List.cons_ne_nil _ _) hplain hsize
  have hset : s.set name (unwords (word :: words)) = .ok (s.insert name (unwords (word :: words))) :=
    Store.set_eq_ok_iff.mpr ⟨hname.1.1.1, hname.2, hsize, rfl⟩
  rw [Store.afterLine_of_ok (isExit_bindingLine _) hprepare, Store.update_set, Store.setWords,
    hset]

/-- The bindings of a store, each made by a line, the oldest first. -/
theorem foldl_bindingLine (bindings : List (Text × Text))
    (hdistinct : (bindings.map Prod.fst).Nodup)
    (h : ∀ b ∈ bindings, IsStoredName b.1 ∧ IsStoredValue b.2) :
    ((bindings.reverse.map bindingLine).foldl Store.afterLine .empty).bindings = bindings := by
  induction bindings with
  | nil => rfl
  | cons b rest ih =>
      obtain ⟨hb, hrest⟩ := List.nodup_cons.mp hdistinct
      have hbindings := ih hrest fun c hc => h c (List.mem_cons_of_mem b hc)
      obtain ⟨hname, hvalue⟩ := h b List.mem_cons_self
      rw [List.reverse_cons, List.map_append, List.foldl_append, List.map_singleton,
        List.foldl_cons, List.foldl_nil, afterLine_bindingLine _ hname hvalue,
        Store.bindings_insert_of_not_mem (by rwa [hbindings]), hbindings]

/-- The stores of sessions on a new interpreter are the well-formed ones. -/
theorem exists_session_store_iff {Files Dir : Type} [Host Files Dir] (files : Files) (dir : Dir)
    (environment : Environment) (s : Store) :
    (∃ lines, ((Shell.start files dir environment).session lines).store = s) ↔ s.WellFormed := by
  constructor
  · rintro ⟨lines, rfl⟩
    exact Shell.wellFormed_session files dir environment lines
  · intro hs
    refine ⟨s.bindings.reverse.map bindingLine, ?_⟩
    rw [Shell.store_session]
    refine Store.eq_of_bindings (foldl_bindingLine s.bindings s.distinct ?_)
    intro b hb
    exact hs b.1 b.2 (Store.get?_eq_some_iff.mpr hb)

end LineShell
