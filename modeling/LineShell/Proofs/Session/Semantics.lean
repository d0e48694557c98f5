import LineShell.Shell
import LineShell.Proofs.Store.Equations

/-! # What a command does

There is one rule for each way in which a command can end. A rule names what the command changes; all
else stays as it was. The rules do not run the command, and they give the same as running it. A command
that fails has changed nothing, except that a program has run if it fails in waiting for it. -/

namespace LineShell

/-- The record that a command makes before it does anything. -/
def Event.ofCommand (command : Text) (args : List Text) : Event :=
  match Builtin.ofName? command with
  | some _ => .builtin command args
  | none => .external command args

theorem Event.ofCommand_name (b : Builtin) (args : List Text) :
    ofCommand b.name args = .builtin b.name args := by
  cases b <;> rfl

theorem Event.ofCommand_of_none {program : Text} (hp : Builtin.ofName? program = none)
    (args : List Text) : ofCommand program args = .external program args := by
  rw [ofCommand, hp]

namespace Shell

variable {Files Dir : Type} [Host Files Dir]

/-- The ways in which a command can fail before it does anything. -/
inductive Failure (sh : Shell Files Dir) : Text → List Text → LineError → Prop
  | cdMissing : sh.Failure Builtin.cd.name [] (.usage .cdMissing)
  | cdTooMany (path second : Text) (rest : List Text) :
    sh.Failure Builtin.cd.name (path :: second :: rest) (.usage .cdTooMany)
  | cdNul {path : Text} (hnul : '\x00' ∈ path) :
    sh.Failure Builtin.cd.name [path] (.nulInPath .cd)
  | cd {path : Text} {reason : Errno} (hnul : '\x00' ∉ path)
      (h : Host.changeDir sh.files sh.dir path = .error reason) :
    sh.Failure Builtin.cd.name [path] (.directory .cd reason)
  | pwd {reason : Errno} (h : Host.pathOf sh.files sh.dir = .error reason) (args : List Text) :
    sh.Failure Builtin.pwd.name args (.directory .pwd reason)
  | setMissing : sh.Failure Builtin.set.name [] (.usage .set)
  | setNameOnly (name : Text) : sh.Failure Builtin.set.name [name] (.usage .set)
  | set {name word : Text} {words : List Text} {reason : StoreError}
      (h : sh.store.set name (Text.unwords (word :: words)) = .error reason) :
    sh.Failure Builtin.set.name (name :: word :: words) (.store reason)
  | unsetMissing : sh.Failure Builtin.unset.name [] (.usage .unset)
  | unsetTooMany (name second : Text) (rest : List Text) :
    sh.Failure Builtin.unset.name (name :: second :: rest) (.usage .unset)
  | nul {program : Text} {args : List Text} (hp : Builtin.ofName? program = none)
      (hnul : '\x00' ∈ program ∨ ∃ arg ∈ args, '\x00' ∈ arg) :
    sh.Failure program args (.nulInArgument program)
  | notFound {program : Text} {args : List Text} {reason : Errno}
      (hp : Builtin.ofName? program = none)
      (hnul : ¬ ('\x00' ∈ program ∨ ∃ arg ∈ args, '\x00' ∈ arg)) (hreason : reason.isNoEntry)
      (h : Host.start sh.files sh.dir sh.environment program args = .error reason) :
    sh.Failure program args (.notFound program)
  | spawn {program : Text} {args : List Text} {reason : Errno}
      (hp : Builtin.ofName? program = none)
      (hnul : ¬ ('\x00' ∈ program ∨ ∃ arg ∈ args, '\x00' ∈ arg)) (hreason : ¬ reason.isNoEntry)
      (h : Host.start sh.files sh.dir sh.environment program args = .error reason) :
    sh.Failure program args (.spawn program reason)

/-- The ways in which a list of words can end. A command that fails before it does anything leaves its
record and nothing else. -/
inductive Effect (sh : Shell Files Dir) : List Text → Outcome Files Dir Unit → Prop
  | nothing : sh.Effect [] ⟨.ok (), sh, []⟩
  | failed {command : Text} {args : List Text} {e : LineError} (h : sh.Failure command args e) :
    sh.Effect (command :: args) ⟨.error e, sh, [.log (.ofCommand command args)]⟩
  | moved {path : Text} {dir : Dir} (hnul : '\x00' ∉ path)
      (h : Host.changeDir sh.files sh.dir path = .ok dir) :
    sh.Effect [Builtin.cd.name, path]
      ⟨.ok (), { sh with dir }, [.log (.builtin Builtin.cd.name [path])]⟩
  | printed {path : Text} (h : Host.pathOf sh.files sh.dir = .ok path) (args : List Text) :
    sh.Effect (Builtin.pwd.name :: args)
      ⟨.ok (), sh, [.log (.builtin Builtin.pwd.name args), .print (path ++ ['\n'])]⟩
  | bound {name word : Text} {words : List Text} {store : Store}
      (h : sh.store.set name (Text.unwords (word :: words)) = .ok store) :
    sh.Effect (Builtin.set.name :: name :: word :: words)
      ⟨.ok (), { sh with store },
        .log (.builtin Builtin.set.name (name :: word :: words)) ::
          (sh.store.setEvents name).map .log⟩
  | removed (name : Text) :
    sh.Effect [Builtin.unset.name, name]
      ⟨.ok (), { sh with store := sh.store.erase name },
        .log (.builtin Builtin.unset.name [name]) :: (sh.store.unsetEvents name).map .log⟩
  | ran {program : Text} {args : List Text} {files : Files} {child : Host.Child Files Dir}
      {status : ExitStatus} (hp : Builtin.ofName? program = none)
      (hnul : ¬ ('\x00' ∈ program ∨ ∃ arg ∈ args, '\x00' ∈ arg))
      (hstart : Host.start sh.files sh.dir sh.environment program args = .ok (files, child))
      (hwait : (Host.wait files child).status = .ok status) :
    sh.Effect (program :: args)
      ⟨.ok (), { sh with files := (Host.wait files child).files, lastStatus := some status },
        .log (.external program args) :: .log (.spawned program (Host.pid child)) ::
          .ran program args (Host.wait files child).writes ::
            if status.success then [] else [.log (.exited program status)]⟩
  | lost {program : Text} {args : List Text} {files : Files} {child : Host.Child Files Dir}
      {reason : Errno} (hp : Builtin.ofName? program = none)
      (hnul : ¬ ('\x00' ∈ program ∨ ∃ arg ∈ args, '\x00' ∈ arg))
      (hstart : Host.start sh.files sh.dir sh.environment program args = .ok (files, child))
      (hwait : (Host.wait files child).status = .error reason) :
    sh.Effect (program :: args)
      ⟨.error (.wait program reason), { sh with files := (Host.wait files child).files },
        [.log (.external program args), .log (.spawned program (Host.pid child)),
          .ran program args (Host.wait files child).writes]⟩

/-! ## Every command follows a rule -/

variable {sh : Shell Files Dir} {program : Text} {args : List Text}

theorem Failure.effect_builtin {b : Builtin} {e : LineError} (h : sh.Failure b.name args e) :
    sh.Effect (b.name :: args) ((sh.fail e).after [.log (.builtin b.name args)]) := by
  have heffect := Effect.failed h
  rwa [Event.ofCommand_name] at heffect

theorem Failure.effect_external (hp : Builtin.ofName? program = none) {e : LineError}
    (h : sh.Failure program args e) :
    sh.Effect (program :: args) ((sh.fail e).after [.log (.external program args)]) := by
  have heffect := Effect.failed h
  rwa [Event.ofCommand_of_none hp] at heffect

variable (sh) (args)

theorem effect_setVariable :
    sh.Effect (Builtin.set.name :: args)
      ((sh.setVariable args).after [.log (.builtin Builtin.set.name args)]) := by
  rcases args with _ | ⟨name, _ | ⟨word, words⟩⟩
  · exact Failure.setMissing.effect_builtin
  · exact (Failure.setNameOnly name).effect_builtin
  · rw [setVariable]
    cases h : sh.store.set name (Text.unwords (word :: words)) with
    | error reason => exact (Failure.set h).effect_builtin
    | ok store => exact .bound h

theorem effect_unsetVariable :
    sh.Effect (Builtin.unset.name :: args)
      ((sh.unsetVariable args).after [.log (.builtin Builtin.unset.name args)]) := by
  rcases args with _ | ⟨name, _ | ⟨second, rest⟩⟩
  · exact Failure.unsetMissing.effect_builtin
  · exact .removed name
  · exact (Failure.unsetTooMany name second rest).effect_builtin

theorem effect_changeDir :
    sh.Effect (Builtin.cd.name :: args)
      ((sh.changeDir args).after [.log (.builtin Builtin.cd.name args)]) := by
  rcases args with _ | ⟨path, _ | ⟨second, rest⟩⟩
  · exact Failure.cdMissing.effect_builtin
  · rw [changeDir]
    by_cases hnul : '\x00' ∈ path
    · rw [if_pos hnul]
      exact (Failure.cdNul hnul).effect_builtin
    · rw [if_neg hnul]
      cases h : Host.changeDir sh.files sh.dir path with
      | error reason => exact (Failure.cd hnul h).effect_builtin
      | ok dir => exact .moved hnul h
  · exact (Failure.cdTooMany path second rest).effect_builtin

theorem effect_printDir :
    sh.Effect (Builtin.pwd.name :: args)
      (sh.printDir.after [.log (.builtin Builtin.pwd.name args)]) := by
  rw [printDir]
  cases h : Host.pathOf sh.files sh.dir with
  | error reason => exact (Failure.pwd h args).effect_builtin
  | ok path => exact .printed h args

theorem effect_runProgram (hp : Builtin.ofName? program = none) :
    sh.Effect (program :: args)
      ((sh.runProgram program args).after [.log (.external program args)]) := by
  fun_cases runProgram sh program args with
  | case1 hnul => exact (Failure.nul hp hnul).effect_external hp
  | case2 hnul reason hstart =>
      by_cases hreason : reason.isNoEntry
      · rw [if_pos hreason]
        exact (Failure.notFound hp hnul hreason hstart).effect_external hp
      · rw [if_neg hreason]
        exact (Failure.spawn hp hnul hreason hstart).effect_external hp
  | case3 hnul files child hstart =>
      rw [await]
      cases hwait : (Host.wait files child).status with
      | error reason => exact .lost hp hnul hstart hwait
      | ok status => exact .ran hp hnul hstart hwait

theorem effect_dispatch (words : List Text) : sh.Effect words (sh.dispatch words) := by
  cases words with
  | nil => exact .nothing
  | cons command args =>
      rw [dispatch, execute]
      cases hb : Builtin.ofName? command with
      | none => exact sh.effect_runProgram args hb
      | some b =>
          rw [Builtin.ofName?_eq_some_iff.mp hb]
          cases b with
          | cd => exact sh.effect_changeDir args
          | pwd => exact sh.effect_printDir args
          | set => exact sh.effect_setVariable args
          | unset => exact sh.effect_unsetVariable args

/-! ## Every rule is followed -/

variable {sh} {args}

theorem execute_name (b : Builtin) :
    sh.execute b.name args = (sh.runBuiltin b args).after [.log (.builtin b.name args)] := by
  cases b <;> rfl

theorem execute_of_none (hp : Builtin.ofName? program = none) :
    sh.execute program args =
      (sh.runProgram program args).after [.log (.external program args)] := by
  rw [execute, hp]

theorem Failure.execute_eq {command : Text} {e : LineError} (h : sh.Failure command args e) :
    sh.execute command args = ⟨.error e, sh, [.log (.ofCommand command args)]⟩ := by
  cases h with
  | cdMissing | cdTooMany | setMissing | setNameOnly | unsetMissing | unsetTooMany => rfl
  | cdNul hnul =>
      rw [execute_name, runBuiltin, changeDir, if_pos hnul]
      rfl
  | cd hnul h =>
      rw [execute_name, runBuiltin, changeDir, if_neg hnul, h]
      rfl
  | pwd h =>
      rw [execute_name, runBuiltin, printDir, h]
      rfl
  | set h =>
      rw [execute_name, runBuiltin, setVariable, h]
      rfl
  | nul hp hnul =>
      rw [execute_of_none hp, Event.ofCommand_of_none hp, runProgram, if_pos hnul]
      rfl
  | notFound hp hnul hreason h =>
      rw [execute_of_none hp, Event.ofCommand_of_none hp, runProgram, if_neg hnul, h]
      dsimp only
      rw [if_pos hreason]
      rfl
  | spawn hp hnul hreason h =>
      rw [execute_of_none hp, Event.ofCommand_of_none hp, runProgram, if_neg hnul, h]
      dsimp only
      rw [if_neg hreason]
      rfl

/-- The rules describe commands exactly. -/
theorem effect_iff {words : List Text} {o : Outcome Files Dir Unit} :
    sh.Effect words o ↔ sh.dispatch words = o := by
  constructor
  · intro h
    cases h with
    | nothing => rfl
    | failed h => exact h.execute_eq
    | moved hnul h =>
        rw [dispatch, execute_name, runBuiltin, changeDir, if_neg hnul, h]
        rfl
    | printed h args =>
        rw [dispatch, execute_name, runBuiltin, printDir, h]
        rfl
    | bound h =>
        rw [dispatch, execute_name, runBuiltin, setVariable, h]
        rfl
    | removed name => rfl
    | ran hp hnul hstart hwait =>
        rw [dispatch, execute_of_none hp, runProgram, if_neg hnul, hstart]
        dsimp only
        rw [await, hwait]
        rfl
    | lost hp hnul hstart hwait =>
        rw [dispatch, execute_of_none hp, runProgram, if_neg hnul, hstart]
        dsimp only
        rw [await, hwait]
        rfl
  · rintro rfl
    exact sh.effect_dispatch words

/-! ## Variables and programs -/

theorem Failure.update_eq {command : Text} {e : LineError} (h : sh.Failure command args e) :
    sh.store.update (command :: args) = sh.store := by
  cases h with
  | cdMissing | cdTooMany | cdNul | cd | pwd => rfl
  | setMissing | setNameOnly | unsetMissing | unsetTooMany => rfl
  | set h => rw [Store.update_set, Store.setWords, h]
  | nul hp | notFound hp | spawn hp => rw [Store.update, hp]

/-- What a command does to the variables is decided by its words alone. -/
theorem store_dispatch (sh : Shell Files Dir) (words : List Text) :
    (sh.dispatch words).shell.store = sh.store.update words := by
  have heffect := sh.effect_dispatch words
  generalize sh.dispatch words = o at heffect
  cases heffect with
  | nothing | moved | printed | removed => rfl
  | failed h => exact h.update_eq.symm
  | bound h => rw [Store.update_set, Store.setWords, h]
  | ran hp | lost hp => rw [Store.update, hp]

/-- The record of how a program ended is no run of another. -/
theorem ran_not_mem_exited {writes : List Write} (command : Text) (status : ExitStatus) :
    .ran program args writes ∉
      if status.success then [] else [Action.log (.exited command status)] := by
  split <;> simp

/-- A program is run with the words of its command. -/
theorem eq_of_ran_mem_dispatch {words : List Text} {writes : List Write}
    (h : .ran program args writes ∈ (sh.dispatch words).actions) : words = program :: args := by
  have heffect := sh.effect_dispatch words
  generalize sh.dispatch words = o at h heffect
  cases heffect with
  | nothing | failed | moved | printed | bound | removed => simp at h
  | ran =>
      simp only [List.mem_cons, reduceCtorEq, false_or, Action.ran.injEq] at h
      rcases h with ⟨rfl, rfl, -⟩ | h
      · rfl
      · exact absurd h (ran_not_mem_exited _ _)
  | lost =>
      simp only [List.mem_cons, List.not_mem_nil, or_false, reduceCtorEq, false_or,
        Action.ran.injEq] at h
      obtain ⟨rfl, rfl, -⟩ := h
      rfl

end Shell

end LineShell
