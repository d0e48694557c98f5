import LineShell.Input.Pipe
import LineShell.Proofs.Input.Readings
import LineShell.Proofs.Utf8.Ascii
import LineShell.Proofs.Words.Equations

/-! # Lines of a stream

A stream is cut at its newlines and each piece is decoded. It comes to the same to decode the whole
stream and to cut the text. -/

namespace LineShell

namespace Text

/-! ## Lines of a text -/

/-- Takes a carriage return off the end. -/
def dropReturn (t : Text) : Text := if t.getLast? = some '\r' then t.dropLast else t

/-- The lines of a text. The text is cut at its newlines, one carriage return in front of each of
them left out; what is behind the last newline is a line as it is, if there is something. -/
def lines (t : Text) : List Text :=
  (cut '\n' t).dropLast.map dropReturn ++ (cut '\n' t).getLast?.toList.filter (· ≠ [])

theorem cut_of_not_mem {c : Char} {t : Text} (h : c ∉ t) : cut c t = [t] := by
  have hcut := cut_append h []
  rwa [List.append_nil, cut, List.modifyHead_cons, List.append_nil] at hcut

theorem cut_append_cons {c : Char} {t : Text} (h : c ∉ t) (rest : Text) :
    cut c (t ++ c :: rest) = t :: cut c rest := by
  rw [cut_append h, cut, if_pos rfl, List.modifyHead_cons, List.append_nil]

@[simp] theorem lines_nil : lines [] = [] := rfl

theorem lines_of_not_mem {t : Text} (h : '\n' ∉ t) (hne : t ≠ []) : lines t = [t] := by
  rw [lines, cut_of_not_mem h]
  simp [hne]

theorem lines_append_cons {t : Text} (h : '\n' ∉ t) (rest : Text) :
    lines (t ++ '\n' :: rest) = dropReturn t :: lines rest := by
  obtain ⟨part, parts, hc⟩ := List.exists_cons_of_ne_nil (cut_ne_nil '\n' rest)
  rw [lines, lines, cut_append_cons h, hc, List.dropLast_cons_cons, List.map_cons, List.cons_append,
    List.getLast?_cons_cons]

/-- Induction along the pieces between the occurrences of an element. -/
@[elab_as_elim]
theorem pieceInduction {α : Type*} [DecidableEq α] {motive : List α → Prop} {a : α}
    (last : ∀ piece, a ∉ piece → motive piece)
    (piece : ∀ piece rest, a ∉ piece → motive rest → motive (piece ++ a :: rest)) (l : List α) :
    motive l := by
  by_cases h : a ∈ l
  · obtain ⟨front, rest, hl, hfront⟩ := List.eq_append_cons_of_mem h
    have hshorter : rest.length < l.length := by
      rw [hl, List.length_append, List.length_cons]
      omega
    rw [hl]
    exact piece front rest hfront (pieceInduction last piece rest)
  · exact last l h
termination_by l.length

/-- Behind a newline the lines begin anew. -/
theorem lines_append (before after : Text) :
    lines (before ++ '\n' :: after) = lines (before ++ ['\n']) ++ lines after := by
  induction before using pieceInduction (a := '\n') with
  | last t ht =>
      rw [lines_append_cons ht, lines_append_cons ht, lines_nil, List.cons_append, List.nil_append]
  | piece t rest ht ih =>
      rw [List.append_assoc, List.append_assoc, List.cons_append, List.cons_append,
        lines_append_cons ht, lines_append_cons ht, ih, List.cons_append]

/-! ## Newlines in encoded text -/

theorem newline_not_mem_decode {bs : Bytes} (h : 10 ∉ bs) : '\n' ∉ decode bs :=
  fun hmem => h (mem_of_mem_decode (by decide) hmem)

theorem decode_append_newline (bs rest : Bytes) :
    decode (bs ++ 10 :: rest) = decode bs ++ '\n' :: decode rest := by
  rw [decode_append (by decide), decode_cons_of_ascii (by decide)]
  rfl

/-- Decoding makes no newline and takes none away. -/
theorem count_newline_decode (bs : Bytes) : (decode bs).count '\n' = bs.count 10 := by
  induction bs using pieceInduction (a := (10 : UInt8)) with
  | last bs h => rw [List.count_eq_zero.mpr h, List.count_eq_zero.mpr (newline_not_mem_decode h)]
  | piece bs rest h ih =>
      rw [decode_append_newline, List.count_append, List.count_append,
        List.count_eq_zero.mpr h, List.count_eq_zero.mpr (newline_not_mem_decode h),
        List.count_cons_self, List.count_cons_self, ih]

/-- The bytes in front of a newline and those behind it give lines of their own. -/
theorem lines_decode_append (before after : Bytes) :
    lines (decode (before ++ 10 :: after)) =
      lines (decode (before ++ [10])) ++ lines (decode after) := by
  rw [decode_append_newline, lines_append, decode_append_newline, decode_nil]

theorem decode_append_return (bs : Bytes) : decode (bs ++ [13]) = decode bs ++ ['\r'] := by
  rw [decode_append (by decide), decode_cons_of_ascii (by decide), decode_nil]
  rfl

end Text

namespace Pipe

open Text

/-! ## Segments -/

theorem nextSegment_of_not_mem {bs : Bytes} (h : 10 ∉ bs) : nextSegment bs = (bs, []) := by
  induction bs with
  | nil => rfl
  | cons b bs ih =>
      obtain ⟨hb, hbs⟩ := List.ne_and_not_mem_of_not_mem_cons h
      have hnewline : ¬ isNewline b := by simpa [isNewline] using Ne.symm hb
      rw [nextSegment, if_neg hnewline, ih hbs]

theorem nextSegment_append_cons {bs : Bytes} (h : 10 ∉ bs) (rest : Bytes) :
    nextSegment (bs ++ 10 :: rest) = (bs ++ [10], rest) := by
  induction bs with
  | nil => rfl
  | cons b bs ih =>
      obtain ⟨hb, hbs⟩ := List.ne_and_not_mem_of_not_mem_cons h
      have hnewline : ¬ isNewline b := by simpa [isNewline] using Ne.symm hb
      rw [List.cons_append, nextSegment, if_neg hnewline, ih hbs, List.cons_append]

/-- A segment without a newline is a line as it is. -/
theorem content_of_not_mem {bs : Bytes} (h : 10 ∉ bs) : content bs = bs := by
  fun_cases content bs with
  | case1 rest hreverse => exact absurd (List.mem_reverse.mp (hreverse ▸ List.mem_cons_self)) h
  | case2 rest hreturn hreverse =>
      exact absurd (List.mem_reverse.mp (hreverse ▸ List.mem_cons_self)) h
  | case3 => rfl

/-- The end of a line is the same before and after decoding. -/
theorem decode_content (bs : Bytes) :
    decode (content (bs ++ [10])) = dropReturn (decode bs) := by
  cases hlast : bs.getLast? with
  | none =>
      rw [List.getLast?_eq_none_iff.mp hlast]
      simp [content, dropReturn]
  | some b =>
      obtain ⟨front, rfl⟩ := List.getLast?_eq_some_iff.mp hlast
      by_cases hb : b = 13
      · rw [hb, decode_append_return, dropReturn, if_pos List.getLast?_concat, List.dropLast_concat]
        simp [content]
      · have hreturn : (decode (front ++ [b])).getLast? ≠ some '\r' := by
          intro h
          have hbyte := getLast?_of_getLast?_decode (by decide) h
          rw [hlast] at hbyte
          exact hb (Option.some.inj hbyte)
        rw [dropReturn, if_neg hreturn]
        simp [content, hb]

/-- The first line of a decoded stream is its first segment, decoded; the other lines are those of
the bytes behind it. -/
theorem lines_decode {bs : Bytes} (hne : bs ≠ []) :
    lines (decode bs) =
      decode (content (nextSegment bs).1) :: lines (decode (nextSegment bs).2) := by
  by_cases h : 10 ∈ bs
  · obtain ⟨front, rest, rfl, hfront⟩ := List.eq_append_cons_of_mem h
    rw [nextSegment_append_cons hfront, decode_append_newline,
      lines_append_cons (newline_not_mem_decode hfront), decode_content]
  · rw [nextSegment_of_not_mem h, content_of_not_mem h,
      lines_of_not_mem (newline_not_mem_decode h) (decode_eq_nil_iff.not.mpr hne), decode_nil,
      lines_nil]

/-! ## Reading -/

/-- What a stream answers to a request, and what it leaves. -/
def next : Bytes → Reply × Bytes
  | [] => (.eof, [])
  | b :: bs =>
    (.line (decode (content (nextSegment (b :: bs)).1)), (nextSegment (b :: bs)).2)

section
variable {p : Pipe} {prompt : Text}

theorem read_of_rejected {e : InputError} (h : (p.writer.write prompt.encode).2.2 = .error e) :
    p.read prompt = ⟨.error e, (p.writer.write prompt.encode).1,
      ⟨p.input, (p.writer.write prompt.encode).2.1⟩⟩ := by
  rw [read]
  rcases hwrite : p.writer.write prompt.encode with ⟨written, writer, result⟩
  rw [hwrite] at h
  obtain rfl : result = .error e := h
  rfl

theorem read_of_accepted (h : (p.writer.write prompt.encode).2.2 = .ok ()) :
    p.read prompt = ⟨.ok (next p.input).1, (p.writer.write prompt.encode).1,
      ⟨(next p.input).2, (p.writer.write prompt.encode).2.1⟩⟩ := by
  rw [read]
  rcases hwrite : p.writer.write prompt.encode with ⟨written, writer, result⟩
  rw [hwrite] at h
  obtain rfl : result = .ok () := h
  cases p.input <;> rfl

/-- A request is answered unless its prompt is rejected. -/
theorem read_cases_of_write (p : Pipe) (prompt : Text) :
    (∃ e, (p.writer.write prompt.encode).2.2 = .error e ∧ (p.read prompt).reply = .error e ∧
      (p.read prompt).source.input = p.input) ∨
    (p.writer.write prompt.encode).2.2 = .ok () ∧ (p.read prompt).reply = .ok (next p.input).1 ∧
      (p.read prompt).source.input = (next p.input).2 := by
  cases h : (p.writer.write prompt.encode).2.2 with
  | error e =>
      rw [read_of_rejected h]
      exact .inl ⟨e, rfl, rfl, rfl⟩
  | ok done =>
      rw [read_of_accepted h]
      exact .inr ⟨rfl, rfl, rfl⟩

/-- The writer takes the prompt whether it is answered or not. -/
theorem written_read (p : Pipe) (prompt : Text) :
    (p.read prompt).written = (p.writer.write prompt.encode).1 ∧
      (p.read prompt).source.writer = (p.writer.write prompt.encode).2.1 := by
  cases h : (p.writer.write prompt.encode).2.2 with
  | error e =>
      rw [read_of_rejected h]
      exact ⟨rfl, rfl⟩
  | ok done =>
      rw [read_of_accepted h]
      exact ⟨rfl, rfl⟩

end

/-- What one reading does. A prompt that does not fit leaves the stream alone; otherwise the first
line of the decoded stream is answered, and the others are left. -/
theorem read_cases (prompt : Text) (p : Pipe) :
    (∃ e, (p.read prompt).reply = .error e ∧ (p.read prompt).source.input = p.input) ∨
    ((p.read prompt).reply = .ok .eof ∧ lines (decode p.input) = [] ∧
      (p.read prompt).source.input = p.input) ∨
    ∃ text, (p.read prompt).reply = .ok (.line text) ∧
      lines (decode p.input) = text :: lines (decode (p.read prompt).source.input) := by
  obtain ⟨e, -, hreply, hleft⟩ | ⟨-, hreply, hleft⟩ := p.read_cases_of_write prompt
  · exact .inl ⟨e, hreply, hleft⟩
  · rw [hreply, hleft]
    cases p.input with
    | nil => exact .inr (.inl ⟨rfl, by rw [decode_nil, lines_nil], rfl⟩)
    | cons b bs => exact .inr (.inr ⟨_, rfl, lines_decode (List.cons_ne_nil b bs)⟩)

/-- A writer that takes everything takes every prompt. -/
theorem read_of_unlimited {p : Pipe} (h : p.writer = .unlimited) (prompt : Text) :
    (∃ reply, (p.read prompt).reply = .ok reply) ∧ (p.read prompt).written = prompt.encode ∧
      (p.read prompt).source.writer = .unlimited := by
  rw [read_of_accepted (by rw [h]; rfl), h]
  exact ⟨⟨_, rfl⟩, rfl, rfl⟩

/-- The lines of the decoded stream are answered in order, and behind them its end. -/
theorem answers_in_order (p : Pipe) {prompts : List Text} {n : Nat} (hn : prompts.length ≤ n) :
    LineSource.answers p prompts <+:
      (lines (decode p.input)).map .line ++ List.replicate n .eof := by
  induction prompts generalizing p n with
  | nil => exact List.nil_prefix
  | cons prompt prompts ih =>
      obtain ⟨e, hreply, hinput⟩ | ⟨hreply, hlines, hinput⟩ | ⟨text, hreply, hlines⟩ :=
        read_cases prompt p
      · have hrest := ih (p.read prompt).source (Nat.le_of_succ_le hn)
        rw [hinput] at hrest
        rw [LineSource.answers_cons_of_error hreply]
        exact hrest
      · cases n with
        | zero => exact absurd hn (Nat.not_succ_le_zero _)
        | succ n =>
            have hrest := ih (p.read prompt).source (Nat.le_of_succ_le_succ hn)
            rw [hinput, hlines] at hrest
            rw [LineSource.answers_cons_of_ok hreply, hlines, List.map_nil, List.nil_append,
              List.replicate_succ, List.cons_prefix_cons]
            exact ⟨rfl, hrest⟩
      · have hrest := ih (p.read prompt).source (Nat.le_of_succ_le hn)
        rw [LineSource.answers_cons_of_ok hreply, hlines, List.map_cons, List.cons_append,
          List.cons_prefix_cons]
        exact ⟨rfl, hrest⟩

/-- If every prompt can be written, every request is answered. -/
theorem length_answers {p : Pipe} (h : p.writer = .unlimited) (prompts : List Text) :
    (LineSource.answers p prompts).length = prompts.length := by
  induction prompts generalizing p with
  | nil => rfl
  | cons prompt prompts ih =>
      obtain ⟨⟨reply, hreply⟩, -, hwriter⟩ := read_of_unlimited h prompt
      rw [LineSource.answers_cons_of_ok hreply, List.length_cons, List.length_cons]
      exact congrArg (· + 1) (ih hwriter)

/-- Once the end was answered, all lines were. -/
theorem takeWhile_answers {p : Pipe} {prompts : List Text}
    (h : .eof ∈ LineSource.answers p prompts) :
    (LineSource.answers p prompts).takeWhile (· ≠ .eof) = (lines (decode p.input)).map .line := by
  have hline : .eof ∉ (lines (decode p.input)).map Reply.line := by simp
  have horder := answers_in_order p (Nat.le_refl prompts.length)
  rcases List.prefix_or_prefix_of_prefix horder (List.prefix_append _ _) with hfew | hall
  · exact absurd (hfew.mem h) hline
  · obtain ⟨ends, hends⟩ := hall
    rw [← hends, List.prefix_append_right_inj] at horder
    have hend : ∀ reply ∈ ends.head?, ¬ decide (reply ≠ .eof) := by
      intro reply hreply
      have heof : reply = .eof := List.eq_of_mem_replicate (horder.mem (List.mem_of_mem_head? hreply))
      simp [heof]
    rw [← hends, takeWhile_append_of_head? (by simp) hend]

/-- Asking a pipe again and again gives the lines of the whole stream, decoded at once, in order,
and its end from then on. A prompt that cannot be written costs an answer and no line. Decoding
replaces each maximal subpart of what is ill formed and nothing else. It keeps the newlines of the
stream, makes none, and what is in front of a newline and what is behind it are decoded without each
other. -/
theorem answers_spec (p : Pipe) (prompts : List Text) :
    let texts := lines (decode p.input)
    let answers := LineSource.answers p prompts
    answers <+: texts.map .line ++ List.replicate prompts.length .eof ∧
      (p.writer = .unlimited → answers.length = prompts.length) ∧
      (.eof ∈ answers → answers.takeWhile (· ≠ .eof) = texts.map .line) ∧
      (∀ text, Lossy p.input text ↔ text = decode p.input) ∧
      (decode p.input).count '\n' = p.input.count 10 ∧
      ∀ before after, p.input = before ++ 10 :: after →
        texts = lines (decode (before ++ [10])) ++ lines (decode after) := by
  refine ⟨answers_in_order p (Nat.le_refl _), fun h => length_answers h prompts,
    takeWhile_answers, fun _ => lossy_iff, count_newline_decode p.input, ?_⟩
  intro before after h
  rw [h]
  exact lines_decode_append before after

end Pipe

end LineShell
