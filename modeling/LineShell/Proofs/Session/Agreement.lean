import LineShell.Proofs.Expansion.Locality
import LineShell.Proofs.Session.Outcomes
import LineShell.Unix.System
import Mathlib.Data.List.Forall2

/-! # What can be seen of variables

Expansion looks up nothing but names made of name characters, and an unbound name stands for no text.
So two interpreters whose variables give the same text for each such name cannot be told apart by
what lines do, except by their records. -/

namespace LineShell

/-- A name that a reference can have, if it has one at all. -/
def IsIdentifier (name : Text) : Prop := name ≠ [] ∧ ∀ c ∈ name, Text.isNameChar c

namespace Store

/-- Two stores agree if each identifier has the same text in both; a name without a value has the
empty text. -/
def Agrees (s t : Store) : Prop := ∀ name, IsIdentifier name → s.value name = t.value name

/-- No variable is without a name. So it is in every store that commands make, since `set` takes no
empty name. -/
def Named (s : Store) : Prop := s.get? [] = none

variable {s t : Store}

theorem named_empty : empty.Named := rfl

theorem Named.erase (hs : s.Named) (name : Text) : (s.erase name).Named := by
  rw [Named, get?_erase]
  split
  · rfl
  · exact hs

theorem Named.set (hs : s.Named) {name value : Text} (h : s.set name value = .ok t) : t.Named := by
  obtain ⟨hname, -, -, rfl⟩ := set_eq_ok_iff.mp h
  rw [Named, get?_insert, if_neg (Ne.symm hname)]
  exact hs

theorem Named.update (hs : s.Named) (words : List Text) : (s.update words).Named := by
  rcases s.update_cases words with h | ⟨name, word, rest, -, h⟩ | ⟨name, -, h⟩
  · rwa [h]
  · exact hs.set h
  · rw [h]
    exact hs.erase name

theorem Named.afterLine (hs : s.Named) (line : Text) : (s.afterLine line).Named := by
  rw [Store.afterLine]
  split
  · exact hs
  · cases (prepare s line).1 with
    | error e => exact hs
    | ok words => exact hs.update words

theorem value_insert (s : Store) (name value other : Text) :
    (s.insert name value).value other = if other = name then value else s.value other := by
  rw [Store.value, get?_insert, apply_ite (Option.getD · []), Store.value, Option.getD_some]

theorem value_erase (s : Store) (name other : Text) :
    (s.erase name).value other = if other = name then [] else s.value other := by
  rw [Store.value, get?_erase, apply_ite (Option.getD · []), Store.value, Option.getD_none]

theorem Agrees.insert (h : s.Agrees t) (name value : Text) :
    (s.insert name value).Agrees (t.insert name value) := by
  intro other hother
  rw [value_insert, value_insert, h other hother]

theorem Agrees.erase (h : s.Agrees t) (name : Text) : (s.erase name).Agrees (t.erase name) := by
  intro other hother
  rw [value_erase, value_erase, h other hother]

theorem Agrees.refl (s : Store) : s.Agrees s := fun _ _ => rfl

/-- A name that no reference can have may be bound to anything. -/
theorem Agrees.insert_right {name : Text} (h : s.Agrees t) (hname : ¬ IsIdentifier name)
    (value : Text) : s.Agrees (t.insert name value) := by
  intro other hother
  have hne : other ≠ name := by
    rintro rfl
    exact hname hother
  rw [value_insert, if_neg hne, h other hother]

/-- An unbound name may be bound to no text. -/
theorem Agrees.insert_nil {name : Text} (h : s.Agrees t) (hname : t.get? name = none) :
    s.Agrees (t.insert name []) := by
  intro other hother
  rw [h other hother, value_insert]
  split
  · rename_i heq
    rw [heq, Store.value, hname, Option.getD_none]
  · rfl

theorem Agrees.set (h : s.Agrees t) {s' : Store} {name value : Text}
    (hset : s.set name value = .ok s') : ∃ t', t.set name value = .ok t' ∧ s'.Agrees t' := by
  obtain ⟨hempty, hname, hvalue, rfl⟩ := set_eq_ok_iff.mp hset
  exact ⟨_, set_eq_ok_iff.mpr ⟨hempty, hname, hvalue, rfl⟩, h.insert name value⟩

end Store

/-! ## Lines before they are run -/

/-- A `$` without a name has no text in either store, and all other references are identifiers. -/
theorem Store.Agrees.substitute_eq {s t : Store} (h : s.Agrees t) (hs : s.Named) (ht : t.Named)
    (line : Text) : line.substitute s.value = line.substitute t.value := by
  refine Text.substitute_congr fun name ⟨_, _, _, hname, _⟩ => ?_
  by_cases hempty : name = []
  · rw [hempty, Store.value, Store.value, hs, ht]
  · exact h name ⟨hempty, hname⟩

theorem Store.Agrees.prepare_eq {s t : Store} (h : s.Agrees t) (hs : s.Named) (ht : t.Named)
    (line : Text) : (prepare s line).1 = (prepare t line).1 := by
  rw [prepare_result, prepare_result, h.substitute_eq hs ht]

/-! ## What can be seen -/

/-- The actions besides records: what was printed and reported, and the programs that were run with
their arguments and what they wrote. -/
def Action.visible (actions : List Action) : List Action := actions.filter (·.event?.isNone)

namespace Action

@[simp] theorem visible_append (actions more : List Action) :
    visible (actions ++ more) = visible actions ++ visible more := List.filter_append ..

@[simp] theorem visible_records (events : List Event) : visible (events.map log) = [] := by
  simp [visible, event?]

@[simp] theorem visible_log_cons (event : Event) (actions : List Action) :
    visible (log event :: actions) = visible actions := rfl

/-- Records are no output. -/
theorem flatMap_visible {output : Action → Bytes} (hlog : ∀ event, output (log event) = [])
    (actions : List Action) : (visible actions).flatMap output = actions.flatMap output := by
  refine flatMap_filter_of_nil ?_
  intro a _ ha
  cases a with
  | log event => exact hlog event
  | _ => exact absurd rfl ha

end Action

/-- Two interpreters are alike if nothing but the variables differs, and these agree. -/
structure Shell.Alike {Files Dir : Type} (sh sh' : Shell Files Dir) : Prop where
  store : sh.store.Agrees sh'.store
  lastStatus : sh.lastStatus = sh'.lastStatus
  files : sh.files = sh'.files
  dir : sh.dir = sh'.dir
  environment : sh.environment = sh'.environment

/-- Two outcomes are alike if they have the same result, show the same and leave interpreters that
are alike. -/
structure Outcome.Alike {Files Dir α : Type} (o o' : Outcome Files Dir α) : Prop where
  result : o.result = o'.result
  visible : Action.visible o.actions = Action.visible o'.actions
  shell : o.shell.Alike o'.shell

/-! ## Lines that are run -/

namespace Shell

variable {Files Dir : Type} [Host Files Dir]

/-- A command fails for no reason that lies in the variables. -/
theorem Failure.of_alike {sh sh' : Shell Files Dir} (h : sh.Alike sh') {command : Text}
    {args : List Text} {e : LineError} (hf : sh.Failure command args e) :
    sh'.Failure command args e := by
  obtain ⟨hstore, hstatus, hfiles, hdir, henvironment⟩ := h
  cases hf with
  | cdMissing => exact .cdMissing
  | cdTooMany path second rest => exact .cdTooMany path second rest
  | cdNul hnul => exact .cdNul hnul
  | cd hnul hcd => exact .cd hnul (by rw [← hfiles, ← hdir, hcd])
  | pwd hpwd args => exact .pwd (by rw [← hfiles, ← hdir, hpwd]) args
  | setMissing => exact .setMissing
  | setNameOnly name => exact .setNameOnly name
  | set hset => exact .set (Store.set_eq_error_iff.mpr (Store.set_eq_error_iff.mp hset))
  | unsetMissing => exact .unsetMissing
  | unsetTooMany name second rest => exact .unsetTooMany name second rest
  | nul hp hnul => exact .nul hp hnul
  | notFound hp hnul hreason hstart =>
      exact .notFound hp hnul hreason (by rw [← hfiles, ← hdir, ← henvironment, hstart])
  | spawn hp hnul hreason hstart =>
      exact .spawn hp hnul hreason (by rw [← hfiles, ← hdir, ← henvironment, hstart])

/-- A command that can end in one way ends in the same way if the variables agree. -/
theorem Effect.of_alike {sh sh' : Shell Files Dir} (h : sh.Alike sh') {words : List Text}
    {o : Outcome Files Dir Unit} (ho : sh.Effect words o) :
    ∃ o', sh'.Effect words o' ∧ o.Alike o' := by
  have ⟨hstore, hstatus, hfiles, hdir, henvironment⟩ := h
  cases ho with
  | nothing => exact ⟨_, .nothing, rfl, rfl, h⟩
  | failed hf => exact ⟨_, .failed (hf.of_alike h), rfl, rfl, h⟩
  | moved hnul hcd =>
      refine ⟨_, .moved hnul (by rw [← hfiles, ← hdir, hcd]), rfl, rfl, ?_⟩
      exact ⟨hstore, hstatus, hfiles, rfl, henvironment⟩
  | printed hpwd args => exact ⟨_, .printed (by rw [← hfiles, ← hdir, hpwd]) args, rfl, rfl, h⟩
  | bound hset =>
      obtain ⟨t, ht, hagrees⟩ := hstore.set hset
      refine ⟨_, .bound ht, rfl, ?_, ⟨hagrees, hstatus, hfiles, hdir, henvironment⟩⟩
      simp
  | removed name =>
      refine ⟨_, .removed name, rfl, ?_, ⟨hstore.erase name, hstatus, hfiles, hdir, henvironment⟩⟩
      simp
  | ran hp hnul hstart hwait =>
      rw [hfiles, hdir, henvironment] at hstart
      exact ⟨_, .ran hp hnul hstart hwait, rfl, rfl, ⟨hstore, rfl, rfl, hdir, henvironment⟩⟩
  | lost hp hnul hstart hwait =>
      rw [hfiles, hdir, henvironment] at hstart
      exact ⟨_, .lost hp hnul hstart hwait, rfl, rfl, ⟨hstore, hstatus, rfl, hdir, henvironment⟩⟩

theorem Alike.dispatch {sh sh' : Shell Files Dir} (h : sh.Alike sh') (words : List Text) :
    (sh.dispatch words).Alike (sh'.dispatch words) := by
  obtain ⟨o', ho', halike⟩ := (sh.effect_dispatch words).of_alike h
  rwa [effect_iff.mp ho']

theorem Alike.processLine {sh sh' : Shell Files Dir} (h : sh.Alike sh') (hs : sh.store.Named)
    (hs' : sh'.store.Named) (line : Text) :
    (sh.processLine line).Alike (sh'.processLine line) := by
  by_cases hexit : isExit line
  · rw [processLine_of_isExit hexit, processLine_of_isExit hexit]
    exact ⟨rfl, rfl, h⟩
  · have hprepare := h.store.prepare_eq hs hs' line
    cases hp : (prepare sh.store line).1 with
    | error e =>
        rw [processLine_of_error hexit hp, processLine_of_error hexit (hprepare ▸ hp)]
        exact ⟨rfl, by simp, h⟩
    | ok words =>
        obtain ⟨hresult, hvisible, hshell⟩ := h.dispatch words
        rw [processLine_of_ok hexit hp, processLine_of_ok hexit (hprepare ▸ hp)]
        exact ⟨by rw [hresult], by simp [hvisible], hshell⟩

/-! ## Sessions -/

theorem named_processLine {sh : Shell Files Dir} (hs : sh.store.Named) (line : Text) :
    (sh.processLine line).shell.store.Named := by
  rw [store_processLine]
  exact hs.afterLine line

theorem Alike.outcomes {sh sh' : Shell Files Dir} (h : sh.Alike sh') (hs : sh.store.Named)
    (hs' : sh'.store.Named) (lines : List Text) :
    List.Forall₂ Outcome.Alike (sh.outcomes lines) (sh'.outcomes lines) := by
  induction lines generalizing sh sh' with
  | nil => exact .nil
  | cons line lines ih =>
      have hline := h.processLine hs hs' line
      exact .cons hline (ih hline.shell (named_processLine hs line) (named_processLine hs' line))

/-- Take two interpreters that are alike: their variables give the same text for each identifier, and
all else is the same. Then each of any lines has the same result in both, prints the same, runs the
same programs with the same arguments, and leaves interpreters that are alike again. -/
theorem outcomes_of_agrees {sh sh' : Shell Files Dir} (h : sh.Alike sh') (hs : sh.store.Named)
    (hs' : sh'.store.Named) (lines : List Text) :
    List.Forall₂ (fun o o' => o.Alike o' ∧ o.stdout = o'.stdout ∧ o.stderr = o'.stderr)
      (sh.outcomes lines) (sh'.outcomes lines) := by
  refine (h.outcomes hs hs' lines).imp ?_
  intro o o' ho
  refine ⟨ho, ?_, ?_⟩
  · rw [Outcome.stdout, Outcome.stdout, ← Action.flatMap_visible fun _ => rfl, ho.visible,
      Action.flatMap_visible fun _ => rfl]
  · rw [Outcome.stderr, Outcome.stderr, ← Action.flatMap_visible fun _ => rfl, ho.visible,
      Action.flatMap_visible fun _ => rfl]

/-- Without any variables, and with `A-B` bound to a text and `N` to none. -/
theorem outcomes_of_agrees_fresh :
    let sh : Shell Unix.FileSystem Unix.Inode := .start .base Unix.FileSystem.root []
    let store := (Store.empty.insert "A-B".toList "x".toList).insert "N".toList []
    let lines := ["set C $N$A-B y".toList, "echo $C".toList, "set N z".toList]
    sh.Alike { sh with store } ∧ sh.store.Named ∧ store.Named ∧
      List.Forall₂ (fun o o' => o.Alike o' ∧ o.stdout = o'.stdout ∧ o.stderr = o'.stderr)
        (sh.outcomes lines) ({ sh with store }.outcomes lines) := by
  intro sh store lines
  have hhyphen : ¬ IsIdentifier "A-B".toList := fun h => absurd (h.2 '-' (by decide)) (by decide)
  have hstore : Store.empty.Agrees store :=
    ((Store.Agrees.refl _).insert_right hhyphen _).insert_nil (by decide)
  have halike : sh.Alike { sh with store } := ⟨hstore, rfl, rfl, rfl, rfl⟩
  have hnamed : store.Named := rfl
  exact ⟨halike, Store.named_empty, hnamed,
    outcomes_of_agrees halike Store.named_empty hnamed lines⟩

end Shell

end LineShell
