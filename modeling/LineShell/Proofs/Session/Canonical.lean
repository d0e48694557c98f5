import LineShell.Proofs.Session.Reachability
import LineShell.Proofs.Session.Outcomes
import LineShell.Unix.System

/-! # Canonical lines

The words that a line is prepared to, joined by blanks, are a line of their own: its canonical form,
without references and with no blank too many. In every state of a session both lines do the same,
except that the canonical form may be a line that asks for the end. -/

namespace LineShell

open Text

/-! ## The canonical form of a line -/

section
variable {s : Store} {line : Text} {ws : List Text}

theorem Store.WellFormed.prepare_canonical (hs : s.WellFormed) (h : (prepare s line).1 = .ok ws) :
    (prepare s (unwords ws)).1 = .ok ws := by
  have hplain := hs.isPlain_of_prepare h
  have hlength := (prepare_eq_ok_iff.mp h).2.2.2
  exact prepare_unwords s (fun w hw => (hplain w hw).1) (fun w hw => (hplain w hw).2)
    (size_unwords_of_prepare h) hlength

theorem Store.WellFormed.expand_canonical (hs : s.WellFormed) (h : (prepare s line).1 = .ok ws) :
    expand s (unwords ws) = (some (unwords ws), []) := by
  have hplain := hs.isPlain_of_prepare h
  exact expand_of_not_mem s ((spaced_unwords ws).dollar_not_mem fun w hw => (hplain w hw).2)

/-- A line that asks for the end is its own and only word. -/
theorem isExit_unwords_iff (h : (prepare s (unwords ws)).1 = .ok ws) :
    isExit (unwords ws) ↔ ws = ["exit".toList] ∨ ws = ["quit".toList] := by
  constructor
  · intro hexit
    rw [prepare_of_isExit s hexit] at h
    have hws : [unwords ws] = ws := Except.ok.inj h
    rcases isExit_iff.mp hexit with hline | hline
    · exact .inl (by rw [← hws, hline])
    · exact .inr (by rw [← hws, hline])
  · rintro (rfl | rfl) <;> rfl

end

/-! ## What a canonical line does -/

namespace Shell

variable {Files Dir : Type} [Host Files Dir] {sh : Shell Files Dir} {line : Text} {ws : List Text}

/-- A line does what its canonical form does, behind the records of its expansion. -/
theorem processLine_eq_canonical (hs : sh.store.WellFormed) (hexit : ¬ isExit line)
    (h : (prepare sh.store line).1 = .ok ws) (hcanonical : ¬ isExit (unwords ws)) :
    sh.processLine line =
      (sh.processLine (unwords ws)).after ((expand sh.store line).2.map .log) := by
  have hprepare := hs.prepare_canonical h
  rw [processLine_of_ok hexit h, processLine_of_ok hcanonical hprepare, events_of_prepare h,
    events_of_prepare hprepare, hs.expand_canonical h]
  simp [Outcome.after]

/-- A line that is prepared to one word runs the program of that name. -/
theorem processLine_of_program (hexit : ¬ isExit line) {word : Text}
    (h : (prepare sh.store line).1 = .ok [word]) (hword : Builtin.ofName? word = none) :
    sh.processLine line =
      ⟨(sh.runProgram word []).result.map fun _ => .goOn, (sh.runProgram word []).shell,
        (prepare sh.store line).2.map .log ++
          .log (.external word []) :: (sh.runProgram word []).actions⟩ := by
  rw [processLine_of_ok hexit h, dispatch, execute_of_none hword]
  rfl

end Shell

/-- In every state that a session leads to, take a line that is prepared, and join its words by
blanks. What comes out is prepared to the same words. If it does not ask for the end, both lines have
the same result, leave the same state and write the same. If it does, then the line itself runs a
program of the name `exit` or `quit`, where the joined line ends the session. -/
theorem canonical_line {Files Dir : Type} [Host Files Dir] (files : Files) (dir : Dir)
    (environment : Environment) (lines : List Text) {line : Text} {ws : List Text}
    (hexit : line ≠ "exit".toList) (hquit : line ≠ "quit".toList)
    (h : (prepare ((Shell.start files dir environment).session lines).store line).1 = .ok ws) :
    let sh := (Shell.start files dir environment).session lines
    let o := sh.processLine line
    let canonical := sh.processLine (unwords ws)
    (prepare sh.store (unwords ws)).1 = .ok ws ∧
    (ws ≠ ["exit".toList] → ws ≠ ["quit".toList] →
      o.result = canonical.result ∧ o.shell = canonical.shell ∧ o.stdout = canonical.stdout ∧
        o.stderr = canonical.stderr ∧
        o.actions = (expand sh.store line).2.map .log ++ canonical.actions) ∧
    ∀ word, word = "exit".toList ∨ word = "quit".toList → ws = [word] →
      canonical = ⟨.ok .exit, sh, []⟩ ∧
      o = ⟨(sh.runProgram word []).result.map fun _ => .goOn, (sh.runProgram word []).shell,
        (prepare sh.store line).2.map .log ++
          .log (.external word []) :: (sh.runProgram word []).actions⟩ := by
  intro sh o canonical
  have hs : sh.store.WellFormed := Shell.wellFormed_session files dir environment lines
  have hraw : ¬ isExit line := by
    rw [isExit_iff]
    exact fun hline => hline.elim hexit hquit
  have hprepare := hs.prepare_canonical h
  have hend := isExit_unwords_iff hprepare
  refine ⟨hprepare, ?_, ?_⟩
  · intro hnotExit hnotQuit
    have hcanonical : ¬ isExit (unwords ws) := by
      rw [hend]
      exact fun hws => hws.elim hnotExit hnotQuit
    have ho : o = canonical.after ((expand sh.store line).2.map .log) :=
      Shell.processLine_eq_canonical hs hraw h hcanonical
    rw [ho]
    refine ⟨rfl, rfl, ?_, ?_, rfl⟩
    · exact canonical.flatMap_after_records (fun _ => rfl) _
    · exact canonical.flatMap_after_records (fun _ => rfl) _
  · rintro word hword rfl
    have hname : Builtin.ofName? word = none := by
      rcases hword with rfl | rfl <;> rfl
    refine ⟨Shell.processLine_of_isExit (isExit_iff.mpr hword), ?_⟩
    exact Shell.processLine_of_program hraw h hname

/-- A greeting that is echoed, and the word `exit` out of a variable. -/
theorem canonical_line_of_values :
    let sh : Shell Unix.FileSystem Unix.Inode :=
      (Shell.start .base Unix.FileSystem.root []).session
        ["set G hi  there".toList, "set E exit".toList]
    let greeting := " echo  $G".toList
    let ending := "$E".toList
    let words := ["echo".toList, "hi".toList, "there".toList]
    (greeting ≠ "exit".toList ∧ greeting ≠ "quit".toList ∧
      (prepare sh.store greeting).1 = .ok words) ∧
    (ending ≠ "exit".toList ∧ ending ≠ "quit".toList ∧
      (prepare sh.store ending).1 = .ok ["exit".toList]) ∧
    (sh.processLine greeting).result = (sh.processLine (unwords words)).result ∧
    (sh.processLine greeting).shell = (sh.processLine (unwords words)).shell ∧
    (sh.processLine greeting).stdout = (sh.processLine (unwords words)).stdout ∧
    sh.processLine (unwords ["exit".toList]) = ⟨.ok .exit, sh, []⟩ ∧
    (sh.processLine ending).shell = (sh.runProgram "exit".toList []).shell := by
  intro sh greeting ending words
  have hgreeting : (prepare sh.store greeting).1 = .ok words := by
    rw [Shell.store_session]
    decide +kernel
  have hending : (prepare sh.store ending).1 = .ok ["exit".toList] := by
    rw [Shell.store_session]
    decide +kernel
  have hexit : greeting ≠ "exit".toList := by decide
  have hquit : greeting ≠ "quit".toList := by decide
  have hexit' : ending ≠ "exit".toList := by decide
  have hquit' : ending ≠ "quit".toList := by decide
  obtain ⟨-, hsame, -⟩ := canonical_line _ _ _ _ hexit hquit hgreeting
  obtain ⟨-, -, hdiffer⟩ := canonical_line _ _ _ _ hexit' hquit' hending
  obtain ⟨hresult, hshell, hstdout, -, -⟩ := hsame (by decide) (by decide)
  obtain ⟨hend, hprogram⟩ := hdiffer _ (.inl rfl) rfl
  exact ⟨⟨hexit, hquit, hgreeting⟩, ⟨hexit', hquit', hending⟩, hresult, hshell, hstdout, hend,
    congrArg Outcome.shell hprogram⟩

end LineShell
