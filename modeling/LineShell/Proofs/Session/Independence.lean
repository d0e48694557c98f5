import LineShell.Proofs.Expansion.Locality
import LineShell.Proofs.Session.Equations
import LineShell.Unix.System

/-! # Independent assignments

A `set` or `unset` changes the variable that it names, by a rule that looks at no other variable. So
two such lines may be run in either order if they name different variables and neither refers to the
variable of the other. -/

namespace LineShell

/-- Words that set or unset a variable. There may be too few or too many of them, or they may be too
long. -/
inductive Assigns : List Text → Text → Prop
  | set (name : Text) (args : List Text) : Assigns (Builtin.set.name :: name :: args) name
  | unset (name : Text) (args : List Text) : Assigns (Builtin.unset.name :: name :: args) name

namespace Assigns

variable {words more : List Text} {name other : Text}

/-! ## Variables -/

/-- What becomes of the variable depends on what it was, and no other variable changes. -/
theorem exists_update (h : Assigns words name) :
    ∃ f : Option Text → Option Text, ∀ (s : Store) (other : Text),
      (s.update words).get? other = if other = name then f (s.get? name) else s.get? other := by
  have hkeep : ∀ (s : Store) (other : Text),
      s.get? other = if other = name then id (s.get? name) else s.get? other := by
    intro s other
    split
    · rename_i heq
      rw [heq, id]
    · rfl
  cases h with
  | set name args =>
      cases args with
      | nil => exact ⟨id, hkeep⟩
      | cons word rest =>
          cases hcheck : Store.check name (Text.unwords (word :: rest)) with
          | error e =>
              refine ⟨id, fun s other => ?_⟩
              rw [Store.update_set, Store.setWords, Store.set_eq_error_iff.mpr hcheck]
              exact hkeep s other
          | ok done =>
              refine ⟨fun _ => some (Text.unwords (word :: rest)), fun s other => ?_⟩
              rw [Store.update_set, Store.setWords, Store.set, hcheck]
              exact s.get?_insert name _ other
  | unset name args =>
      cases args with
      | nil => exact ⟨fun _ => none, fun s other => s.get?_erase name other⟩
      | cons word rest => exact ⟨id, hkeep⟩

theorem get?_update_of_ne (h : Assigns words name) (hne : other ≠ name) (s : Store) :
    (s.update words).get? other = s.get? other := by
  obtain ⟨f, hf⟩ := h.exists_update
  rw [hf, if_neg hne]

/-- Assignments to different variables commute. -/
theorem get?_update_comm (h : Assigns words name) (hmore : Assigns more other) (hne : name ≠ other)
    (s : Store) (any : Text) :
    ((s.update words).update more).get? any = ((s.update more).update words).get? any := by
  obtain ⟨f, hf⟩ := h.exists_update
  obtain ⟨g, hg⟩ := hmore.exists_update
  rw [hg, hf, hf, hf, hg, hg, if_neg hne, if_neg hne.symm]
  by_cases hname : any = name
  · rw [hname, if_neg hne, if_pos rfl, if_pos rfl]
  · rw [if_neg hname, if_neg hname]

/-! ## Commands -/

section
variable {Files Dir : Type} [Host Files Dir] {sh : Shell Files Dir}

/-- An assignment changes nothing but variables. -/
theorem shell_dispatch (h : Assigns words name) (sh : Shell Files Dir) :
    (sh.dispatch words).shell = { sh with store := sh.store.update words } := by
  have hstore := sh.store_dispatch words
  have heffect := sh.effect_dispatch words
  generalize sh.dispatch words = o at hstore heffect
  rw [← hstore]
  cases heffect with
  | nothing | moved | printed => cases h
  | failed | bound | removed => rfl
  | ran hp | lost hp => cases h <;> cases hp

/-- Whether an assignment succeeds lies in its words, and what it records in its variable too. -/
theorem dispatch_congr (h : Assigns words name) (sh sh' : Shell Files Dir)
    (hget : sh.store.get? name = sh'.store.get? name) :
    (sh.dispatch words).result = (sh'.dispatch words).result ∧
      (sh.dispatch words).actions = (sh'.dispatch words).actions := by
  cases h with
  | set name args =>
      rw [Shell.dispatch, Shell.dispatch, Shell.execute_name, Shell.execute_name]
      cases args with
      | nil => exact ⟨rfl, rfl⟩
      | cons word rest =>
          rw [Shell.runBuiltin, Shell.runBuiltin, Shell.setVariable, Shell.setVariable, Store.set,
            Store.set, Store.setEvents, Store.setEvents, hget]
          cases Store.check name (Text.unwords (word :: rest)) <;> exact ⟨rfl, rfl⟩
  | unset name args =>
      rw [Shell.dispatch, Shell.dispatch, Shell.execute_name, Shell.execute_name]
      cases args with
      | nil =>
          rw [Shell.runBuiltin, Shell.runBuiltin, Shell.unsetVariable, Shell.unsetVariable,
            Store.unsetEvents, Store.unsetEvents, hget]
          exact ⟨rfl, rfl⟩
      | cons word rest => exact ⟨rfl, rfl⟩

/-! ## Lines -/

variable {line : Text}

theorem not_isExit (h : Assigns words name) {s : Store} (hprepare : (prepare s line).1 = .ok words) :
    ¬ isExit line := by
  intro hexit
  rw [prepare_of_isExit s hexit] at hprepare
  cases hprepare
  cases h

theorem shell_processLine (h : Assigns words name) (hprepare : (prepare sh.store line).1 = .ok words) :
    (sh.processLine line).shell = { sh with store := sh.store.update words } := by
  rw [Shell.processLine_of_ok (h.not_isExit hprepare) hprepare]
  exact h.shell_dispatch sh

/-- An assignment does the same behind another one to a variable that it does not refer to. -/
theorem processLine_behind (h : Assigns words name) (hmore : Assigns more other) (hne : name ≠ other)
    (hprepare : (prepare sh.store line).1 = .ok words) (hrefers : ¬ line.RefersTo other) :
    let behind := { sh with store := sh.store.update more }.processLine line
    behind.result = (sh.processLine line).result ∧ behind.actions = (sh.processLine line).actions ∧
      behind.shell = { sh with store := (sh.store.update more).update words } := by
  intro behind
  have hsame : prepare (sh.store.update more) line = prepare sh.store line := by
    refine prepare_congr fun found hfound => hmore.get?_update_of_ne ?_ sh.store
    rintro rfl
    exact hrefers hfound
  have hbehind : (prepare (sh.store.update more) line).1 = .ok words := by rw [hsame, hprepare]
  have hget : (sh.store.update more).get? name = sh.store.get? name :=
    hmore.get?_update_of_ne hne sh.store
  obtain ⟨hresult, hactions⟩ :=
    h.dispatch_congr { sh with store := sh.store.update more } sh hget
  have hline := Shell.processLine_of_ok (h.not_isExit hprepare) hprepare
  have hline' : behind = _ := Shell.processLine_of_ok (h.not_isExit hbehind) hbehind
  refine ⟨?_, ?_, h.shell_processLine hbehind⟩
  · rw [hline, hline', hresult]
  · rw [hline, hline', hactions, hsame]

end

end Assigns

/-- Take two lines that are prepared to assignments of different variables, which may well fail, where
neither line refers to the variable of the other. In either order, each line has the same result and the
same actions, and in the end every name has the same value and nothing but variables has changed. -/
theorem assignments_commute {Files Dir : Type} [Host Files Dir] (sh : Shell Files Dir)
    {first second : Text} {words more : List Text} {name other : Text}
    (hfirst : (prepare sh.store first).1 = .ok words) (hname : Assigns words name)
    (hsecond : (prepare sh.store second).1 = .ok more) (hother : Assigns more other)
    (hne : name ≠ other) (hfirstRefers : ¬ first.RefersTo other)
    (hsecondRefers : ¬ second.RefersTo name) :
    let secondAfterFirst := (sh.processLine first).shell.processLine second
    let firstAfterSecond := (sh.processLine second).shell.processLine first
    (firstAfterSecond.result = (sh.processLine first).result ∧
      firstAfterSecond.actions = (sh.processLine first).actions) ∧
    (secondAfterFirst.result = (sh.processLine second).result ∧
      secondAfterFirst.actions = (sh.processLine second).actions) ∧
    ∃ s t : Store, secondAfterFirst.shell = { sh with store := s } ∧
      firstAfterSecond.shell = { sh with store := t } ∧ ∀ any, s.get? any = t.get? any := by
  intro secondAfterFirst firstAfterSecond
  have hbehindSecond := hname.processLine_behind hother hne hfirst hfirstRefers
  have hbehindFirst := hother.processLine_behind hname hne.symm hsecond hsecondRefers
  rw [← hother.shell_processLine hsecond] at hbehindSecond
  rw [← hname.shell_processLine hfirst] at hbehindFirst
  obtain ⟨hresult, hactions, hshell⟩ := hbehindSecond
  obtain ⟨hresult', hactions', hshell'⟩ := hbehindFirst
  exact ⟨⟨hresult, hactions⟩, ⟨hresult', hactions'⟩, _, _, hshell', hshell,
    hname.get?_update_comm hother hne sh.store⟩

/-- The first line refers to `B`, and not to the variable `B-C` that the second line sets. -/
theorem assignments_commute_of_hyphen :
    let store := Store.empty.insert "B".toList "1".toList
    let sh : Shell Unix.FileSystem Unix.Inode :=
      { Shell.start .base Unix.FileSystem.root [] with store }
    let first : Text := "set A $B-C".toList
    let second : Text := "set B-C $B  $B".toList
    let secondAfterFirst := (sh.processLine first).shell.processLine second
    let firstAfterSecond := (sh.processLine second).shell.processLine first
    ((prepare sh.store first).1 = .ok ["set".toList, "A".toList, "1-C".toList] ∧
      (prepare sh.store second).1 = .ok ["set".toList, "B-C".toList, "1".toList, "1".toList] ∧
      "A".toList ≠ "B-C".toList ∧ ¬ first.RefersTo "B-C".toList ∧ ¬ second.RefersTo "A".toList) ∧
    (firstAfterSecond.result = (sh.processLine first).result ∧
      firstAfterSecond.actions = (sh.processLine first).actions) ∧
    (secondAfterFirst.result = (sh.processLine second).result ∧
      secondAfterFirst.actions = (sh.processLine second).actions) ∧
    ∃ s t : Store, secondAfterFirst.shell = { sh with store := s } ∧
      firstAfterSecond.shell = { sh with store := t } ∧ ∀ any, s.get? any = t.get? any := by
  intro store sh first second secondAfterFirst firstAfterSecond
  have hfirst : (prepare sh.store first).1 = .ok ["set".toList, "A".toList, "1-C".toList] := by
    decide +kernel
  have hsecond : (prepare sh.store second).1 =
      .ok ["set".toList, "B-C".toList, "1".toList, "1".toList] := by
    decide +kernel
  have hne : "A".toList ≠ "B-C".toList := by decide
  have hfirstRefers : ¬ first.RefersTo "B-C".toList := by decide
  have hsecondRefers : ¬ second.RefersTo "A".toList := by decide
  exact ⟨⟨hfirst, hsecond, hne, hfirstRefers, hsecondRefers⟩,
    assignments_commute sh hfirst (.set _ _) hsecond (.set _ _) hne hfirstRefers hsecondRefers⟩

end LineShell
