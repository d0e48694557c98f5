import LineShell.Proofs.Session.Semantics

/-! # What a command leaves alone

A command changes the variables, the working directory or the last status, and never two of them. So
the last status is that of the program that was started last, whatever was run after it. Only a program
whose status the system cannot tell leaves the status as it was. -/

namespace LineShell

/-- A program that was started: what waiting for it gives, and its number. -/
structure Launch (Files : Type) extends Completion Files where
  pid : Nat

/-- The status that a program left, if the system can tell it. -/
def Launch.exit? {Files : Type} (l : Launch Files) : Option ExitStatus := l.status.toOption

namespace Shell

variable {Files Dir : Type} [Host Files Dir]

/-! ## Programs that are started -/

/-- The program that a list of words starts. Words start a program if the first of them names no
built-in command, none of them holds a NUL, and the system does not refuse. -/
def launch? (sh : Shell Files Dir) : List Text → Option (Launch Files)
  | [] => none
  | program :: args =>
    if (Builtin.ofName? program).isSome ∨ '\x00' ∈ program ∨ ∃ arg ∈ args, '\x00' ∈ arg then none
    else
      match Host.start sh.files sh.dir sh.environment program args with
      | .error _ => none
      | .ok (files, child) => some ⟨Host.wait files child, Host.pid child⟩

section
variable {sh : Shell Files Dir} {program : Text} {args words : List Text}
  {o : Outcome Files Dir Unit}

theorem launch?_name (sh : Shell Files Dir) (b : Builtin) (args : List Text) :
    sh.launch? (b.name :: args) = none := by
  rw [launch?, Builtin.ofName?_eq_some_iff.mpr rfl]
  exact if_pos (.inl rfl)

section
variable (hp : Builtin.ofName? program = none)
  (hnul : ¬ ('\x00' ∈ program ∨ ∃ arg ∈ args, '\x00' ∈ arg))
include hp hnul

theorem launch?_of_error {reason : Errno}
    (h : Host.start sh.files sh.dir sh.environment program args = .error reason) :
    sh.launch? (program :: args) = none := by
  rw [launch?, hp, h]
  exact if_neg fun hn => hn.elim Bool.false_ne_true hnul

theorem launch?_of_ok {files : Files} {child : Host.Child Files Dir}
    (h : Host.start sh.files sh.dir sh.environment program args = .ok (files, child)) :
    sh.launch? (program :: args) = some ⟨Host.wait files child, Host.pid child⟩ := by
  rw [launch?, hp, h]
  exact if_neg fun hn => hn.elim Bool.false_ne_true hnul

end

theorem Failure.launch?_eq {e : LineError} (h : sh.Failure program args e) :
    sh.launch? (program :: args) = none := by
  cases h with
  | cdMissing | cdTooMany | cdNul | cd => exact sh.launch?_name .cd _
  | pwd => exact sh.launch?_name .pwd _
  | setMissing | setNameOnly | set => exact sh.launch?_name .set _
  | unsetMissing | unsetTooMany => exact sh.launch?_name .unset _
  | nul hp hnul => exact if_pos (.inr hnul)
  | notFound hp hnul hreason h => exact launch?_of_error hp hnul h
  | spawn hp hnul hreason h => exact launch?_of_error hp hnul h

/-! ## What each rule changes -/

theorem Effect.one_changes (h : sh.Effect words o) :
    o.shell.store = sh.store ∧ o.shell.dir = sh.dir ∨
      o.shell.store = sh.store ∧ o.shell.lastStatus = sh.lastStatus ∨
      o.shell.dir = sh.dir ∧ o.shell.lastStatus = sh.lastStatus := by
  cases h with
  | nothing | failed | printed | ran | lost => exact .inl ⟨rfl, rfl⟩
  | moved => exact .inr (.inl ⟨rfl, rfl⟩)
  | bound | removed => exact .inr (.inr ⟨rfl, rfl⟩)

theorem Effect.store_changes (h : sh.Effect words o) (hne : o.shell.store ≠ sh.store) :
    o.result = .ok () ∧ ∃ command name args, words = command :: name :: args ∧
      (command = "set".toList ∨ command = "unset".toList) ∧
      ∀ other, other ≠ name → o.shell.store.get? other = sh.store.get? other := by
  cases h with
  | nothing | failed | moved | printed | ran | lost => exact absurd rfl hne
  | bound hset =>
      obtain ⟨-, -, -, rfl⟩ := Store.set_eq_ok_iff.mp hset
      refine ⟨rfl, _, _, _, rfl, .inl rfl, ?_⟩
      intro other hother
      rw [Store.get?_insert, if_neg hother]
  | removed name =>
      refine ⟨rfl, _, name, [], rfl, .inr rfl, ?_⟩
      intro other hother
      rw [Store.get?_erase, if_neg hother]

theorem Effect.dir_changes (h : sh.Effect words o) (hne : o.shell.dir ≠ sh.dir) :
    o.result = .ok () ∧ ∃ path, words = ["cd".toList, path] ∧
      Host.changeDir sh.files sh.dir path = .ok o.shell.dir := by
  cases h with
  | nothing | failed | printed | bound | removed | ran | lost => exact absurd rfl hne
  | moved hnul hcd => exact ⟨rfl, _, rfl, hcd⟩

theorem Effect.environment_eq (h : sh.Effect words o) :
    o.shell.environment = sh.environment := by
  cases h <;> rfl

theorem Effect.lastStatus_eq (h : sh.Effect words o) :
    o.shell.lastStatus = ((sh.launch? words).bind Launch.exit?).or sh.lastStatus := by
  cases h with
  | nothing => rfl
  | failed h => rw [h.launch?_eq, Option.bind_none, Option.none_or]
  | moved => rw [sh.launch?_name .cd, Option.bind_none, Option.none_or]
  | printed => rw [sh.launch?_name .pwd, Option.bind_none, Option.none_or]
  | bound => rw [sh.launch?_name .set, Option.bind_none, Option.none_or]
  | removed => rw [sh.launch?_name .unset, Option.bind_none, Option.none_or]
  | ran hp hnul hstart hwait =>
      rw [launch?_of_ok hp hnul hstart, Option.bind_some, Launch.exit?, hwait]
      rfl
  | lost hp hnul hstart hwait =>
      rw [launch?_of_ok hp hnul hstart, Option.bind_some, Launch.exit?, hwait]
      rfl

/-- The programs that actions show are those that are started, with what they write. -/
theorem Effect.ran_mem_iff (h : sh.Effect words o) {writes : List Write} :
    .ran program args writes ∈ o.actions ↔
      words = program :: args ∧ ∃ l, sh.launch? words = some l ∧ l.writes = writes := by
  cases h with
  | nothing => simp [launch?]
  | failed h => simp [h.launch?_eq]
  | moved => simp [sh.launch?_name .cd]
  | printed => simp [sh.launch?_name .pwd]
  | bound => simp [sh.launch?_name .set]
  | removed => simp [sh.launch?_name .unset]
  | @ran command rest files child status hp hnul hstart =>
      simp only [List.mem_cons, reduceCtorEq, false_or, Action.ran.injEq, ran_not_mem_exited,
        or_false, launch?_of_ok hp hnul hstart, Option.some.injEq, exists_eq_left', List.cons.injEq]
      rw [and_assoc, eq_comm (a := program), eq_comm (a := args), eq_comm (a := writes)]
  | @lost command rest files child reason hp hnul hstart =>
      simp only [List.mem_cons, List.not_mem_nil, or_false, reduceCtorEq, false_or,
        Action.ran.injEq, launch?_of_ok hp hnul hstart, Option.some.injEq, exists_eq_left',
        List.cons.injEq]
      rw [and_assoc, eq_comm (a := program), eq_comm (a := args), eq_comm (a := writes)]

/-- A command that starts a program fails if the system cannot tell how the program ended. -/
theorem Effect.result_of_launch? (h : sh.Effect (program :: args) o) {l : Launch Files}
    (hl : sh.launch? (program :: args) = some l) :
    o.result = (l.status.mapError (.wait program)).map fun _ => () := by
  cases h with
  | failed h =>
      rw [h.launch?_eq] at hl
      cases hl
  | moved | printed | bound | removed => cases hl
  | ran hp hnul hstart hwait | lost hp hnul hstart hwait =>
      rw [launch?_of_ok hp hnul hstart] at hl
      obtain rfl := Option.some.inj hl
      rw [hwait]
      rfl

theorem ofName?_of_launch? {l : Launch Files} (h : sh.launch? (program :: args) = some l) :
    Builtin.ofName? program = none := by
  rw [launch?] at h
  split at h
  · cases h
  · rename_i hn
    exact Option.not_isSome_iff_eq_none.mp fun hp => hn (.inl hp)

end

/-! ## One command -/

/-- What a command may change, and when. All else stays as it is. -/
structure Frame (sh : Shell Files Dir) (words : List Text) (o : Outcome Files Dir Unit) : Prop where
  /-- Of the variables, the working directory and the last status, two stay as they are. -/
  one : o.shell.store = sh.store ∧ o.shell.dir = sh.dir ∨
    o.shell.store = sh.store ∧ o.shell.lastStatus = sh.lastStatus ∨
    o.shell.dir = sh.dir ∧ o.shell.lastStatus = sh.lastStatus
  /-- Only a `set` or `unset` that succeeds changes variables, and no other than the one it names. -/
  store : o.shell.store ≠ sh.store →
    o.result = .ok () ∧ ∃ command name args, words = command :: name :: args ∧
      (command = "set".toList ∨ command = "unset".toList) ∧
      ∀ other, other ≠ name → o.shell.store.get? other = sh.store.get? other
  /-- Only a `cd` that succeeds changes the working directory. -/
  dir : o.shell.dir ≠ sh.dir →
    o.result = .ok () ∧ ∃ path, words = ["cd".toList, path] ∧
      Host.changeDir sh.files sh.dir path = .ok o.shell.dir
  /-- The last status becomes that of the program that is started, if one is and the system can tell how
  it ended, and else stays. -/
  lastStatus : o.shell.lastStatus = ((sh.launch? words).bind Launch.exit?).or sh.lastStatus
  /-- A program that is started has a name of its own and is seen to run, and nothing but waiting for it
  can fail. -/
  started : ∀ l, sh.launch? words = some l →
    ∃ program args, words = program :: args ∧
      program ∉ ["cd".toList, "pwd".toList, "set".toList, "unset".toList] ∧
      .ran program args l.writes ∈ o.actions ∧
      o.result = (l.status.mapError (.wait program)).map fun _ => ()
  /-- No other program is seen to run. -/
  ran : ∀ program args writes, .ran program args writes ∈ o.actions →
    ∃ l, sh.launch? words = some l ∧ l.writes = writes
  environment : o.shell.environment = sh.environment

theorem Effect.frame {sh : Shell Files Dir} {words : List Text} {o : Outcome Files Dir Unit}
    (h : sh.Effect words o) : sh.Frame words o := by
  refine ⟨h.one_changes, h.store_changes, h.dir_changes, h.lastStatus_eq, ?_, ?_,
    h.environment_eq⟩
  · intro l hl
    cases words with
    | nil => cases hl
    | cons program args =>
        have hran := h.ran_mem_iff.mpr ⟨rfl, l, hl, rfl⟩
        refine ⟨program, args, rfl, ?_, hran, h.result_of_launch? hl⟩
        have hp := ofName?_of_launch? hl
        intro hmem
        simp only [List.mem_cons, List.not_mem_nil, or_false] at hmem
        rcases hmem with rfl | rfl | rfl | rfl <;> cases hp
  · intro program args writes hran
    exact (h.ran_mem_iff.mp hran).2

/-! ## Commands in order -/

/-- The state after commands that are run in order, whether they fail or not. -/
def commands (sh : Shell Files Dir) (calls : List (List Text)) : Shell Files Dir :=
  calls.foldl (fun sh words => (sh.dispatch words).shell) sh

/-- Commands that are run in order, each with the state that it is run in. -/
def trail (sh : Shell Files Dir) : List (List Text) → List (Shell Files Dir × List Text)
  | [] => []
  | words :: calls => (sh, words) :: (sh.dispatch words).shell.trail calls

/-- What waiting for the programs answered that commands started, in order. -/
def endings (calls : List (Shell Files Dir × List Text)) : List (Except Errno ExitStatus) :=
  calls.filterMap fun call => (call.1.launch? call.2).map fun l => l.status

end Shell

end LineShell
