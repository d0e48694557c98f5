import LineShell.Proofs.Expansion.Records
import LineShell.Proofs.Session.Outcomes
import LineShell.Proofs.Store.History

/-! # Assignments

Whether an assignment is accepted is decided by its words alone, and every rejection has one cause: the
first that there is, of those that are looked for in order. An accepted assignment is seen through the
look-up of its name, and through nothing else. -/

namespace LineShell

/-- Words joined by blanks. -/
theorem Text.unwords_eq_intercalate (ws : List Text) : unwords ws = [' '].intercalate ws := by
  fun_induction unwords ws with
  | case1 => rfl
  | case2 w => simp
  | case3 w ws hws ih =>
      obtain ⟨v, vs, rfl⟩ := List.exists_cons_of_ne_nil hws
      rw [ih]
      simp

namespace Store

/-! ## Causes of a rejection -/

section
variable {name value : Text} {n : Nat}

theorem rejection_emptyName_iff : Rejection name value .emptyName ↔ name = [] := by
  constructor
  · rintro ⟨⟩
    rfl
  · rintro rfl
    exact .emptyName value

theorem rejection_nameTooLong_iff :
    Rejection name value (.nameTooLong n) ↔ name ≠ [] ∧ 255 < name.size ∧ n = name.size := by
  constructor
  · rintro (_ | ⟨_, h⟩ | _)
    refine ⟨?_, h, rfl⟩
    rintro rfl
    exact absurd h (Nat.not_lt_zero 255)
  · rintro ⟨-, h, rfl⟩
    exact .nameTooLong value h

theorem rejection_valueTooLong_iff :
    Rejection name value (.valueTooLong n) ↔
      name ≠ [] ∧ name.size ≤ 255 ∧ 255 < value.size ∧ n = value.size := by
  constructor
  · rintro (_ | _ | ⟨hempty, hname, h⟩)
    exact ⟨hempty, hname, h, rfl⟩
  · rintro ⟨hempty, hname, h, rfl⟩
    exact .valueTooLong hempty hname h

theorem get?_insert_eq_update (s : Store) (name value : Text) :
    (s.insert name value).get? = Function.update s.get? name (some value) := by
  funext other
  rw [get?_insert, Function.update_apply]

end

end Store

namespace Shell

variable {Files Dir : Type} [Host Files Dir]

/-! ## Assignments with a value -/

section
variable (sh : Shell Files Dir) (name : Text) {words : List Text}

/-- An assignment fails for the reason for which the store rejects it. -/
theorem result_set_eq_error_iff (h : words ≠ []) {e : StoreError} :
    (sh.dispatch (Builtin.set.name :: name :: words)).result = .error (.store e) ↔
      Store.Rejection name (Text.unwords words) e := by
  obtain ⟨word, rest, rfl⟩ := List.exists_cons_of_ne_nil h
  rw [← Store.set_eq_error_iff_rejection (s := sh.store)]
  cases hset : sh.store.set name (Text.unwords (word :: rest)) with
  | error reason =>
      rw [effect_iff.mp (.failed (.set hset))]
      simp
  | ok store =>
      rw [effect_iff.mp (.bound hset)]
      simp

theorem result_set_eq_ok_iff (h : words ≠ []) :
    (sh.dispatch (Builtin.set.name :: name :: words)).result = .ok () ↔
      Store.Acceptable name (Text.unwords words) := by
  obtain ⟨word, rest, rfl⟩ := List.exists_cons_of_ne_nil h
  by_cases hok : Store.Acceptable name (Text.unwords (word :: rest))
  · rw [effect_iff.mp (.bound (Store.set_of_acceptable hok))]
    exact iff_of_true rfl hok
  · obtain ⟨e, he⟩ := Store.exists_set_eq_error (s := sh.store) hok
    rw [effect_iff.mp (.failed (.set he))]
    exact iff_of_false (by simp) hok

theorem get?_of_set (h : words ≠ []) (hok : Store.Acceptable name (Text.unwords words)) :
    (sh.dispatch (Builtin.set.name :: name :: words)).shell.store.get? =
      Function.update sh.store.get? name (some (Text.unwords words)) := by
  obtain ⟨word, rest, rfl⟩ := List.exists_cons_of_ne_nil h
  rw [effect_iff.mp (.bound (Store.set_of_acceptable hok))]
  exact sh.store.get?_insert_eq_update name _

end

/-- The usage error is that of an assignment without a value. -/
theorem result_set_eq_usage_iff (sh : Shell Files Dir) (args : List Text) :
    (sh.dispatch (Builtin.set.name :: args)).result = .error (.usage .set) ↔ args.length < 2 := by
  rcases args with _ | ⟨name, _ | ⟨word, rest⟩⟩
  · rw [effect_iff.mp (.failed .setMissing)]
    simp
  · rw [effect_iff.mp (.failed (.setNameOnly name))]
    simp
  · cases hset : sh.store.set name (Text.unwords (word :: rest)) with
    | error reason =>
        rw [effect_iff.mp (.failed (.set hset))]
        simp
    | ok store =>
        rw [effect_iff.mp (.bound hset)]
        simp

/-! ## Every assignment -/

/-- An assignment without a value is told how assignments are written. With a name and words it fails
exactly if the name is empty, or else too long, or else the words with a blank between neighbours are too
long, and the sizes that are reported are those of the name and of the words so joined. If it succeeds,
the name has this value, all other look-ups are as they were, and every line is expanded and recorded as
it is from these look-ups. If it fails, look-ups and expansions are as they were. -/
theorem assignment_spec (sh : Shell Files Dir) (args : List Text) :
    let o := sh.dispatch ("set".toList :: args)
    (o.result = .error (.usage .set) ↔ args.length < 2) ∧
    (∀ name words, args = name :: words → words ≠ [] →
      let size := (words.map Text.size).sum + (words.length - 1)
      let value := [' '].intercalate words
      (o.result = .error (.store .emptyName) ↔ name = []) ∧
      (∀ n, o.result = .error (.store (.nameTooLong n)) ↔
        name ≠ [] ∧ 255 < name.size ∧ n = name.size) ∧
      (∀ n, o.result = .error (.store (.valueTooLong n)) ↔
        name ≠ [] ∧ name.size ≤ 255 ∧ 255 < size ∧ n = size) ∧
      (o.result = .ok () ↔ name ≠ [] ∧ name.size ≤ 255 ∧ size ≤ 255) ∧
      (o.result = .ok () →
        let lookup := Function.update sh.store.get? name (some value)
        o.shell.store.get? = lookup ∧ ∀ line, expand o.shell.store line = line.expansion lookup)) ∧
    (∀ line, expand sh.store line = line.expansion sh.store.get?) ∧
    (∀ e, o.result = .error e →
      o.shell.store.get? = sh.store.get? ∧
        ∀ line, expand o.shell.store line = expand sh.store line) := by
  intro o
  refine ⟨sh.result_set_eq_usage_iff args, ?_, expand_eq_expansion sh.store, ?_⟩
  · rintro name words rfl hwords size value
    have hsize : (Text.unwords words).size = size := Text.size_unwords words
    have hvalue : Text.unwords words = value := Text.unwords_eq_intercalate words
    have herror {e : StoreError} := sh.result_set_eq_error_iff name hwords (e := e)
    have hok := sh.result_set_eq_ok_iff name hwords
    rw [Store.Acceptable, hsize] at hok
    refine ⟨herror.trans Store.rejection_emptyName_iff, ?_, ?_, hok, ?_⟩
    · exact fun n => herror.trans Store.rejection_nameTooLong_iff
    · intro n
      rw [← hsize]
      exact herror.trans Store.rejection_valueTooLong_iff
    · intro hsuccess lookup
      have hget : o.shell.store.get? = lookup := by
        have hset := sh.get?_of_set name hwords ((sh.result_set_eq_ok_iff name hwords).mp hsuccess)
        rw [hvalue] at hset
        exact hset
      refine ⟨hget, fun line => ?_⟩
      rw [expand_eq_expansion, hget]
  · intro e he
    have hshell : o.shell = { sh with files := o.shell.files } := dispatch_of_error he
    rw [hshell]
    exact ⟨rfl, fun _ => rfl⟩

end Shell

end LineShell
