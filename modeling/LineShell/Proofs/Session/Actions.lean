import LineShell.Proofs.Session.Outcomes

/-! # Actions of a line

A line makes records of its own, prints, and runs programs. Prompts, reports, and the records about
reports and about the end are made by the loop. -/

namespace LineShell

/-- The records of a line; the loop makes all others. -/
def Event.OfLine : Event → Prop
  | suppressed _ | leaving => False
  | _ => True

/-- The actions of a line; the loop takes all others. -/
def Action.OfLine : Action → Prop
  | log event => event.OfLine
  | print _ | ran _ _ _ => True
  | report _ | ask _ _ => False

namespace Action

/-- Whether an action is a report, or the record of one that was held back. -/
def isReport : Action → Bool
  | report _ | log (.suppressed _) => true
  | log _ | print _ | ran _ _ _ | ask _ _ => false

variable {a : Action}

theorem stdout_of_isReport (h : a.isReport) : a.stdout = [] := by
  cases a with
  | log | report => rfl
  | print | ran | ask => cases h

theorem prompt?_of_isReport (h : a.isReport) : a.prompt? = none := by
  cases a with
  | ask => cases h
  | _ => rfl

theorem OfLine.prompt?_eq (h : a.OfLine) : a.prompt? = none := by
  cases a with
  | ask => exact h.elim
  | _ => rfl

theorem OfLine.not_isReport (h : a.OfLine) : ¬ a.isReport := by
  intro hreport
  cases a with
  | log event =>
      cases event with
      | suppressed message => exact h
      | _ => cases hreport
  | report text => exact h
  | print | ran | ask => cases hreport

end Action

/-! ## Records of preparation -/

theorem ofLine_fill (store : Store) (buffer : Text) (pieces : List Piece) :
    ∀ event ∈ (fill store buffer pieces).2, event.OfLine := by
  fun_induction fill store buffer pieces with
  | case1 => simp
  | case2 => simp
  | case3 buffer text rest buffer' hpush ih => exact ih
  | case4 buffer name rest hget result events hfill ih =>
      rw [hfill] at ih
      exact List.forall_mem_cons.mpr ⟨trivial, ih⟩
  | case5 => simp
  | case6 buffer name rest value hget buffer' hpush ih => exact ih

theorem ofLine_scan (store : Store) (line : Text) : ∀ event ∈ (scan store line).2, event.OfLine := by
  have hfill := ofLine_fill store [] line.pieces
  fun_cases scan store line with
  | case1 events hpair => rwa [hpair] at hfill
  | case2 result events hpair =>
      rw [hpair] at hfill
      exact List.forall_mem_append.mpr ⟨hfill, by simp [Event.OfLine]⟩

theorem ofLine_expand (store : Store) (line : Text) :
    ∀ event ∈ (expand store line).2, event.OfLine := by
  rw [expand]
  split
  · exact ofLine_scan store line
  · simp

theorem ofLine_prepare (store : Store) (line : Text) :
    ∀ event ∈ (prepare store line).2, event.OfLine := by
  have hexpand := ofLine_expand store line
  rw [prepare]
  fun_cases prepareWith (expand store) line with
  | case1 => simp
  | case2 hsize events hpair => rwa [hpair] at hexpand
  | case3 hsize expanded events hpair e htokenize => rwa [hpair] at hexpand
  | case4 hsize expanded events hpair words htokenize =>
      rw [hpair] at hexpand
      exact List.forall_mem_append.mpr ⟨hexpand, by simp [Event.OfLine]⟩

namespace Shell

variable {Files Dir : Type} [Host Files Dir]

/-! ## Actions of commands and lines -/

theorem ofLine_dispatch (sh : Shell Files Dir) (words : List Text) :
    ∀ a ∈ (sh.dispatch words).actions, a.OfLine := by
  have heffect := sh.effect_dispatch words
  generalize sh.dispatch words = o at heffect
  cases heffect with
  | nothing => simp
  | @failed command args e h =>
      rw [Event.ofCommand]
      cases Builtin.ofName? command <;> simp [Action.OfLine, Event.OfLine]
  | moved | printed => simp [Action.OfLine, Event.OfLine]
  | @bound name =>
      cases h : sh.store.get? name <;> simp [Store.setEvents, h, Action.OfLine, Event.OfLine]
  | removed name =>
      cases h : sh.store.get? name <;> simp [Store.unsetEvents, h, Action.OfLine, Event.OfLine]
  | @ran program args files child status =>
      cases status.success <;> simp [Action.OfLine, Event.OfLine]
  | lost => simp [Action.OfLine, Event.OfLine]

theorem ofLine_processLine (sh : Shell Files Dir) (line : Text) :
    ∀ a ∈ (sh.processLine line).actions, a.OfLine := by
  have hrecords : ∀ a ∈ (prepare sh.store line).2.map Action.log, a.OfLine := by
    intro a ha
    obtain ⟨event, hevent, rfl⟩ := List.mem_map.mp ha
    exact ofLine_prepare sh.store line event hevent
  by_cases hexit : isExit line
  · simp [processLine_of_isExit hexit]
  · cases hp : (prepare sh.store line).1 with
    | error e =>
        rw [processLine_of_error hexit hp]
        exact hrecords
    | ok words =>
        rw [processLine_of_ok hexit hp]
        exact List.forall_mem_append.mpr ⟨hrecords, sh.ofLine_dispatch words⟩

theorem ofLine_outcomes (sh : Shell Files Dir) (lines : List Text) :
    ∀ o ∈ sh.outcomes lines, ∀ a ∈ o.actions, a.OfLine := by
  intro o ho
  obtain ⟨sh', line, rfl⟩ := exists_of_mem_outcomes ho
  exact sh'.ofLine_processLine line

end Shell

end LineShell
