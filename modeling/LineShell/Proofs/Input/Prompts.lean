import LineShell.Proofs.Input.Lines

/-! # Prompts

A pipe writes its prompt before it reads. What becomes of the prompt decides whether the pipe reads at
all, and nothing else: what is answered, and what is left of the stream, is known from the stream. So a
prompt that cannot be written costs an answer and no byte of the stream. -/

namespace LineShell

theorem Text.size_pos_iff {t : Text} : 0 < t.size ↔ t ≠ [] := by
  cases t with
  | nil => simp
  | cons c t => simp [Nat.add_pos_left c.utf8Size_pos]

theorem Text.length_flatMap_encode (ts : List Text) :
    (ts.flatMap encode).length = (ts.map size).sum := by
  induction ts with
  | nil => rfl
  | cons t ts ih => rw [List.flatMap_cons, List.length_append, length_encode, ih, List.map_cons,
      List.sum_cons]

namespace Pipe

open Text

/-! ## A writer that takes everything -/

/-- The answers are those of as many requests to a pipe whose prompts are all written, and the same is
left of the stream. -/
theorem answers_of_unlimited (p : Pipe) (prompts : List Text) {others : List Text}
    (h : others.length = (LineSource.answers p prompts).length) :
    (LineSource.readings (Pipe.mk p.input .unlimited) others).map Reading.reply =
        (LineSource.answers p prompts).map .ok ∧
      (LineSource.after p prompts).input =
        (LineSource.after (Pipe.mk p.input .unlimited) others).input := by
  induction prompts generalizing p others with
  | nil =>
      obtain rfl := List.length_eq_zero_iff.mp h
      exact ⟨rfl, rfl⟩
  | cons prompt prompts ih =>
      obtain ⟨e, -, hreply, hinput⟩ | ⟨-, hreply, hinput⟩ := read_cases_of_write p prompt
      · rw [LineSource.answers_cons_of_error hreply] at h ⊢
        rw [LineSource.after_cons, lineSource_read, ← hinput]
        exact ih (p.read prompt).source h
      · rw [LineSource.answers_cons_of_ok hreply] at h ⊢
        obtain ⟨other, others, rfl⟩ := List.exists_cons_of_length_eq_add_one h
        have hother : (Pipe.mk p.input .unlimited).read other =
            ⟨.ok (next p.input).1, other.encode, ⟨(next p.input).2, .unlimited⟩⟩ :=
          read_of_accepted rfl
        obtain ⟨hreplies, hleft⟩ := ih (p.read prompt).source (Nat.succ.inj h)
        rw [hinput] at hreplies hleft
        rw [LineSource.readings_cons, LineSource.after_cons, LineSource.after_cons, lineSource_read,
          lineSource_read, hother, List.map_cons, List.map_cons]
        exact ⟨congrArg (_ :: ·) hreplies, hleft⟩

theorem writer_after_of_unlimited {p : Pipe} (h : p.writer = .unlimited) (prompts : List Text) :
    (LineSource.after p prompts).writer = .unlimited := by
  induction prompts generalizing p with
  | nil => exact h
  | cons prompt prompts ih => exact ih (read_of_unlimited h prompt).2.2

/-! ## A writer with room -/

section
variable {p : Pipe} {cap : Nat} (h : p.writer = .room cap)
include h

theorem read_of_room (prompt : Text) :
    (p.read prompt).written = prompt.encode.take cap ∧
      (p.read prompt).source.writer = .room (cap - prompt.size) := by
  obtain ⟨hwritten, hwriter⟩ := p.written_read prompt
  rw [hwritten, hwriter, h, Writer.write, length_encode]
  exact ⟨rfl, rfl⟩

/-- A prompt is rejected if it is longer than the room that is left. -/
theorem reply_of_room (prompt : Text) (e : InputError) :
    (p.read prompt).reply = .error e ↔ e = .shortWrite ∧ cap < prompt.size := by
  obtain ⟨reason, hwrite, hreply, -⟩ | ⟨hwrite, hreply, -⟩ := p.read_cases_of_write prompt
  · rw [h, Writer.write, length_encode] at hwrite
    rw [hreply]
    by_cases hfit : prompt.size ≤ cap
    · simp [hfit] at hwrite
    · simp only [hfit, if_false, Except.error.injEq] at hwrite
      simp only [← hwrite, Except.error.injEq]
      constructor
      · rintro rfl
        exact ⟨rfl, Nat.lt_of_not_le hfit⟩
      · exact fun h => h.1.symm
  · rw [h, Writer.write, length_encode] at hwrite
    rw [hreply]
    by_cases hfit : prompt.size ≤ cap
    · simp [Nat.not_lt.mpr hfit]
    · simp [hfit] at hwrite

theorem writer_after_of_room (prompts : List Text) :
    (LineSource.after p prompts).writer = .room (cap - (prompts.map size).sum) := by
  induction prompts generalizing p cap with
  | nil => exact h
  | cons prompt prompts ih =>
      rw [LineSource.after_cons, lineSource_read, ih (read_of_room h prompt).2, List.map_cons,
        List.sum_cons, Nat.sub_sub]

/-- As much is written of prompts as there is room for. -/
theorem written_of_room (prompts : List Text) :
    (LineSource.readings p prompts).flatMap Reading.written =
      (prompts.flatMap encode).take cap := by
  induction prompts generalizing p cap with
  | nil => simp [LineSource.readings]
  | cons prompt prompts ih =>
      obtain ⟨hwritten, hwriter⟩ := read_of_room h prompt
      rw [LineSource.readings_cons, List.flatMap_cons, List.flatMap_cons, lineSource_read, hwritten,
        ih hwriter, List.take_append, length_encode]

end

/-! ## Prompts that do not fit -/

/-- A request that fails leaves the stream alone. -/
theorem input_of_error {p : Pipe} {prompt : Text} {e : InputError}
    (h : (p.read prompt).reply = .error e) : (p.read prompt).source.input = p.input := by
  obtain ⟨-, -, -, hinput⟩ | ⟨-, hok, -⟩ := p.read_cases_of_write prompt
  · exact hinput
  · rw [h] at hok
    cases hok

section
variable {p : Pipe} {cap : Nat} (h : p.writer = .room cap)
include h

/-- What counts is the room for all prompts up to this one, whether they were written or not. -/
theorem reply_after_of_room (before : List Text) (prompt : Text) (e : InputError) :
    ((LineSource.after p before).read prompt).reply = .error e ↔
      e = .shortWrite ∧ prompt ≠ [] ∧ cap < ((before ++ [prompt]).map size).sum := by
  have htotal : ((before ++ [prompt]).map size).sum = (before.map size).sum + prompt.size := by
    simp
  have hlong : cap - (before.map size).sum < prompt.size ↔
      prompt ≠ [] ∧ cap < ((before ++ [prompt]).map size).sum := by
    rw [← size_pos_iff, htotal]
    omega
  rw [reply_of_room (writer_after_of_room h before), hlong]

/-- Without a prompt, the next line is read as if every prompt had been written. -/
theorem reply_after_without_prompt (prompts : List Text) {others : List Text}
    (hlength : others.length = (LineSource.answers p prompts).length) (other : Text) :
    ((LineSource.after p prompts).read []).reply =
      ((LineSource.after (Pipe.mk p.input .unlimited) others).read other).reply := by
  obtain ⟨-, hinput⟩ := answers_of_unlimited p prompts hlength
  have hunlimited : (LineSource.after (Pipe.mk p.input .unlimited) others).writer = .unlimited :=
    writer_after_of_unlimited rfl others
  have hempty : (LineSource.after p prompts).read [] = _ :=
    read_of_accepted (by rw [writer_after_of_room h]; rfl)
  have hother : (LineSource.after (Pipe.mk p.input .unlimited) others).read other = _ :=
    read_of_accepted (by rw [hunlimited]; rfl)
  rw [hempty, hother, hinput]

end

/-- A prompt fails if it is nonempty and there is not room for all prompts up to it. It is then told so
and the stream is left alone. The requests that are answered are answered as the same number of requests
would be if every prompt could be written, and they leave the same of the stream, so that a request
without a prompt gets the next line. What is written of prompts is what there is room for. -/
theorem prompts_spec (input : Bytes) (cap : Nat) :
    let p : Pipe := ⟨input, .room cap⟩
    let unlimited : Pipe := ⟨input, .unlimited⟩
    let total := fun prompts : List Text => (prompts.map size).sum
    (∀ before prompt,
      let q := LineSource.after p before
      let call := q.read prompt
      ((∃ e, call.reply = .error e) ↔ prompt ≠ [] ∧ cap < total (before ++ [prompt])) ∧
        ∀ e, call.reply = .error e →
          e.message = "IO error: failed to write whole buffer".toList ∧
            call.source.input = q.input) ∧
    (∀ prompts others : List Text, others.length = (LineSource.answers p prompts).length →
      (LineSource.readings unlimited others).map Reading.reply =
          (LineSource.answers p prompts).map .ok ∧
        ∀ other, ((LineSource.after p prompts).read []).reply =
          ((LineSource.after unlimited others).read other).reply) ∧
    ∀ prompts : List Text, (LineSource.readings p prompts).flatMap Reading.written =
      (prompts.flatMap encode).take (min cap (total prompts)) := by
  intro p unlimited total
  refine ⟨?_, ?_, ?_⟩
  · intro before prompt q call
    have hreply : ∀ e, call.reply = .error e ↔
        e = .shortWrite ∧ prompt ≠ [] ∧ cap < total (before ++ [prompt]) :=
      reply_after_of_room rfl before prompt
    refine ⟨?_, ?_⟩
    · simp only [hreply, exists_eq_left]
    · intro e he
      obtain ⟨rfl, -⟩ := (hreply e).mp he
      exact ⟨rfl, input_of_error he⟩
  · intro prompts others hlength
    exact ⟨(p.answers_of_unlimited prompts hlength).1,
      reply_after_without_prompt rfl prompts hlength⟩
  · intro prompts
    have htotal : (prompts.flatMap encode).length = total prompts := length_flatMap_encode prompts
    rw [written_of_room rfl, ← htotal, ← List.take_take, List.take_length]

end Pipe

end LineShell
