import LineShell.Proofs.Input.Prompts
import Mathlib.Data.List.Basic

/-! # Segments of a stream

Each request takes one segment off the stream: the bytes up to a newline with it, or what is left behind
the last newline. So the stream is taken apart without loss, and whoever writes lines to it gets them
back. -/

namespace LineShell

/-! ## Prompts that fit -/

/-- A writer takes texts one after another, each of them whole. -/
def Writer.Takes : Writer → List Text → Prop
  | _, [] => True
  | w, text :: texts =>
    (w.write text.encode).2.2 = .ok () ∧ (w.write text.encode).2.1.Takes texts

namespace Pipe

open Text

theorem takes_cons_iff {p : Pipe} {prompt : Text} {prompts : List Text} :
    p.writer.Takes (prompt :: prompts) ↔
      (p.writer.write prompt.encode).2.2 = .ok () ∧
        (p.read prompt).source.writer.Takes prompts := by
  rw [(p.written_read prompt).2]
  rfl

/-- If every prompt is taken, every request is answered. -/
theorem replies_of_takes {p : Pipe} {prompts : List Text} (h : p.writer.Takes prompts) :
    (LineSource.readings p prompts).map Reading.reply =
      (LineSource.answers p prompts).map .ok := by
  induction prompts generalizing p with
  | nil => rfl
  | cons prompt prompts ih =>
      obtain ⟨hfirst, hrest⟩ := takes_cons_iff.mp h
      have hreply : (p.read prompt).reply = .ok (next p.input).1 := by
        rw [read_of_accepted hfirst]
      rw [LineSource.readings_cons, lineSource_read, List.map_cons, hreply, ih hrest,
        LineSource.answers_cons_of_ok hreply, List.map_cons]
      rfl

/-! ## Taking a stream apart -/

/-- The segments of a stream. A newline is the end of its segment, and what is behind the last newline is
a segment if there is something. -/
def segments : Bytes → List Bytes
  | [] => []
  | b :: bs =>
    if b = 10 then [b] :: segments bs
    else
      match segments bs with
      | [] => [[b]]
      | segment :: rest => (b :: segment) :: rest

/-- A stream is taken apart behind each of its newlines: no part is empty, a newline stands nowhere but
at the end of a part, and at the end of every part but the last. -/
structure IsCutBehindNewlines (bs : Bytes) (parts : List Bytes) : Prop where
  flatten : parts.flatten = bs
  ne_nil : ∀ part ∈ parts, part ≠ []
  inside : ∀ part ∈ parts, 10 ∉ part.dropLast
  ended : ∀ part ∈ parts.dropLast, part.getLast? = some 10

@[simp] theorem segments_nil : segments [] = [] := rfl

theorem segments_of_not_mem {bs : Bytes} (h : 10 ∉ bs) (hne : bs ≠ []) : segments bs = [bs] := by
  induction bs with
  | nil => exact absurd rfl hne
  | cons b bs ih =>
      obtain ⟨hb, hbs⟩ := List.ne_and_not_mem_of_not_mem_cons h
      rw [segments, if_neg (Ne.symm hb)]
      by_cases hnil : bs = []
      · rw [hnil]
        rfl
      · rw [ih hbs hnil]

theorem segments_append_cons {front : Bytes} (h : 10 ∉ front) (rest : Bytes) :
    segments (front ++ 10 :: rest) = (front ++ [10]) :: segments rest := by
  induction front with
  | nil => rw [List.nil_append, segments, if_pos rfl, List.nil_append]
  | cons b front ih =>
      obtain ⟨hb, hfront⟩ := List.ne_and_not_mem_of_not_mem_cons h
      rw [List.cons_append, segments, if_neg (Ne.symm hb), ih hfront, List.cons_append]

theorem isCutBehindNewlines_nil_iff {bs : Bytes} : IsCutBehindNewlines bs [] ↔ bs = [] := by
  constructor
  · exact fun h => h.flatten.symm
  · rintro rfl
    constructor <;> simp

/-- A part that others follow ends with a newline. -/
theorem isCutBehindNewlines_cons_iff {bs part : Bytes} {parts : List Bytes} :
    IsCutBehindNewlines bs (part :: parts) ↔
      part ≠ [] ∧ 10 ∉ part.dropLast ∧ (parts ≠ [] → part.getLast? = some 10) ∧
        ∃ rest, bs = part ++ rest ∧ IsCutBehindNewlines rest parts := by
  have hended : (∀ q ∈ (part :: parts).dropLast, q.getLast? = some 10) ↔
      (parts ≠ [] → part.getLast? = some 10) ∧ ∀ q ∈ parts.dropLast, q.getLast? = some 10 := by
    cases parts with
    | nil => simp
    | cons next parts => simp
  constructor
  · rintro ⟨hflatten, hne, hinside, hend⟩
    rw [List.forall_mem_cons] at hne hinside
    obtain ⟨hpart, hparts⟩ := hended.mp hend
    exact ⟨hne.1, hinside.1, hpart, parts.flatten, hflatten.symm, rfl, hne.2, hinside.2, hparts⟩
  · rintro ⟨hne, hinside, hpart, rest, rfl, h⟩
    constructor
    · rw [List.flatten_cons, h.flatten]
    · exact List.forall_mem_cons.mpr ⟨hne, h.ne_nil⟩
    · exact List.forall_mem_cons.mpr ⟨hinside, h.inside⟩
    · exact hended.mpr ⟨hpart, h.ended⟩

theorem isCutBehindNewlines_segments (bs : Bytes) : IsCutBehindNewlines bs (segments bs) := by
  induction bs using pieceInduction (a := (10 : UInt8)) with
  | last bs h =>
      by_cases hne : bs = []
      · rw [hne]
        exact isCutBehindNewlines_nil_iff.mpr rfl
      · rw [segments_of_not_mem h hne, isCutBehindNewlines_cons_iff]
        refine ⟨hne, fun hmem => h ((List.dropLast_sublist bs).subset hmem), by simp, [], ?_, ?_⟩
        · rw [List.append_nil]
        · exact isCutBehindNewlines_nil_iff.mpr rfl
  | piece front rest h ih =>
      rw [segments_append_cons h, isCutBehindNewlines_cons_iff]
      refine ⟨by simp, by rwa [List.dropLast_concat], fun _ => List.getLast?_concat, rest, ?_, ih⟩
      rw [List.append_assoc, List.singleton_append]

/-- There is one way to take a stream apart behind its newlines. -/
theorem isCutBehindNewlines_iff {bs : Bytes} {parts : List Bytes} :
    IsCutBehindNewlines bs parts ↔ parts = segments bs := by
  constructor
  · intro h
    induction parts generalizing bs with
    | nil => rw [isCutBehindNewlines_nil_iff.mp h, segments_nil]
    | cons part parts ih =>
        obtain ⟨hne, hinside, hended, rest, rfl, hrest⟩ := isCutBehindNewlines_cons_iff.mp h
        obtain ⟨front, b, rfl⟩ := part.eq_nil_or_concat'.resolve_left hne
        rw [List.dropLast_concat] at hinside
        rw [List.getLast?_concat] at hended
        by_cases hb : b = 10
        · rw [hb, List.append_assoc, List.singleton_append, segments_append_cons hinside, ih hrest]
        · -- Nothing can follow a part without a newline.
          have hlast : parts = [] := by
            by_contra hparts
            exact hb (Option.some.inj (hended hparts))
          have hnewline : 10 ∉ front ++ [b] := by
            simp [hinside, Ne.symm hb]
          subst hlast
          rw [isCutBehindNewlines_nil_iff.mp hrest, List.append_nil,
            segments_of_not_mem hnewline hne]
  · rintro rfl
    exact isCutBehindNewlines_segments bs

/-- The first segment is the one that is read next. -/
theorem segments_of_ne_nil {bs : Bytes} (hne : bs ≠ []) :
    segments bs = (nextSegment bs).1 :: segments (nextSegment bs).2 := by
  by_cases h : 10 ∈ bs
  · obtain ⟨front, rest, rfl, hfront⟩ := List.eq_append_cons_of_mem h
    rw [nextSegment_append_cons hfront, segments_append_cons hfront]
  · rw [nextSegment_of_not_mem h, segments_of_not_mem h hne, segments_nil]

/-- There are as many segments as newlines, and one more if the stream does not end with a newline. -/
theorem length_segments (bs : Bytes) :
    (segments bs).length = bs.count 10 + if bs = [] ∨ bs.getLast? = some 10 then 0 else 1 := by
  induction bs using pieceInduction (a := (10 : UInt8)) with
  | last bs h =>
      have hlast : bs.getLast? ≠ some 10 := fun hend => h (List.mem_of_getLast? hend)
      rw [List.count_eq_zero.mpr h]
      by_cases hne : bs = []
      · simp [hne]
      · rw [segments_of_not_mem h hne, if_neg (not_or.mpr ⟨hne, hlast⟩)]
        rfl
  | piece front rest h ih =>
      have hcount : (front ++ 10 :: rest).count 10 = rest.count 10 + 1 := by
        rw [List.count_append, List.count_eq_zero.mpr h, List.count_cons_self, Nat.zero_add]
      rw [segments_append_cons h, List.length_cons, ih, hcount]
      have hend : (front ++ 10 :: rest = [] ∨ (front ++ 10 :: rest).getLast? = some 10) ↔
          (rest = [] ∨ rest.getLast? = some 10) := by
        cases rest with
        | nil => simp
        | cons b rest => simp
      simp only [hend]
      omega

/-! ## The line in a segment -/

/-- A segment without its newline and then without one carriage return at the end; a segment without a
newline is left as it is. -/
def withoutEnd (segment : Bytes) : Bytes :=
  if segment.getLast? = some 10 then
    if segment.dropLast.getLast? = some 13 then segment.dropLast.dropLast else segment.dropLast
  else segment

theorem content_eq_withoutEnd (segment : Bytes) : content segment = withoutEnd segment := by
  rcases segment.eq_nil_or_concat' with rfl | ⟨front, b, rfl⟩
  · rfl
  · by_cases hb : b = 10
    · rcases front.eq_nil_or_concat' with rfl | ⟨front, c, rfl⟩
      · simp [content, withoutEnd, hb]
      · by_cases hc : c = 13 <;> simp [content, withoutEnd, hb, hc]
    · simp [content, withoutEnd, hb]

/-- No newline is left in a line. -/
theorem newline_not_mem_withoutEnd {segment : Bytes} (h : 10 ∉ segment.dropLast) :
    10 ∉ withoutEnd segment := by
  intro hmem
  rw [withoutEnd] at hmem
  split at hmem
  · split at hmem
    · exact h ((List.dropLast_sublist _).subset hmem)
    · exact h hmem
  · rename_i hlast
    rcases segment.eq_nil_or_concat' with rfl | ⟨front, b, rfl⟩
    · cases hmem
    · rw [List.getLast?_concat, Option.some_inj] at hlast
      rw [List.dropLast_concat] at h
      simp [h, Ne.symm hlast] at hmem

/-- The lines of the decoded stream are those in its segments. -/
theorem lines_decode_eq_map (bs : Bytes) :
    lines (decode bs) = (segments bs).map fun segment => decode (withoutEnd segment) := by
  simp only [← content_eq_withoutEnd]
  induction bs using pieceInduction (a := (10 : UInt8)) with
  | last bs h =>
      by_cases hne : bs = []
      · rw [hne, decode_nil, lines_nil]
        rfl
      · rw [lines_decode hne, segments_of_ne_nil hne, nextSegment_of_not_mem h, decode_nil, lines_nil]
        rfl
  | piece front rest h ih =>
      have hne : front ++ 10 :: rest ≠ [] := by simp
      rw [lines_decode hne, segments_of_ne_nil hne, nextSegment_append_cons h, ih]
      rfl

/-! ## Requests in order -/

theorem segments_next (bs : Bytes) : segments (next bs).2 = (segments bs).drop 1 := by
  cases bs with
  | nil => rfl
  | cons b bs => rw [segments_of_ne_nil (List.cons_ne_nil b bs), List.drop_one]; rfl

/-- If the prompts in front of a prompt are taken, and it is, then it is taken after them. -/
theorem takes_append_cons {p : Pipe} {before later : List Text} {prompt : Text}
    (h : p.writer.Takes (before ++ prompt :: later)) :
    p.writer.Takes before ∧
      ((LineSource.after p before).writer.write prompt.encode).2.2 = .ok () := by
  induction before generalizing p with
  | nil => exact ⟨trivial, h.1⟩
  | cons first before ih =>
      obtain ⟨hfirst, hrest⟩ := takes_cons_iff.mp h
      obtain ⟨hbefore, hprompt⟩ := ih hrest
      exact ⟨takes_cons_iff.mpr ⟨hfirst, hbefore⟩, hprompt⟩

/-- As many requests as there were, as many segments are gone. -/
theorem segments_after {p : Pipe} {prompts : List Text} (h : p.writer.Takes prompts) :
    segments (LineSource.after p prompts).input = (segments p.input).drop prompts.length := by
  induction prompts generalizing p with
  | nil => rfl
  | cons prompt prompts ih =>
      obtain ⟨hfirst, hrest⟩ := takes_cons_iff.mp h
      rw [LineSource.after_cons, lineSource_read, ih hrest, read_of_accepted hfirst, segments_next,
        List.drop_drop, List.length_cons, Nat.add_comm]

/-- What a request does to what is left of a stream when a number of its segments are gone. It takes the
next segment off and answers with the line in it, or with the end if there is no segment more. -/
structure TakesSegment (stream : Bytes) (k : Nat) (q : Pipe) (call : Reading Pipe) : Prop where
  consumed : q.input = (segments stream)[k]?.getD [] ++ call.source.input
  left : ((segments stream).take (k + 1)).flatten ++ call.source.input = stream
  line : ∀ segment, (segments stream)[k]? = some segment →
    ∃ text, call.reply = .ok (.line text) ∧ Lossy (withoutEnd segment) text ∧ '\n' ∉ text
  eof : (segments stream)[k]? = none → call.reply = .ok .eof

theorem flatten_segments (bs : Bytes) : (segments bs).flatten = bs :=
  (isCutBehindNewlines_segments bs).flatten

/-- The text of a segment. -/
theorem line_of_mem_segments {bs segment : Bytes} (h : segment ∈ segments bs) :
    Lossy (withoutEnd segment) (decode (content segment)) ∧ '\n' ∉ decode (content segment) := by
  have hinside := (isCutBehindNewlines_segments bs).inside segment h
  rw [content_eq_withoutEnd]
  exact ⟨lossy_decode _, newline_not_mem_decode (newline_not_mem_withoutEnd hinside)⟩

section
variable {stream rest : Bytes} {k : Nat} (h : segments rest = (segments stream).drop k)
include h

theorem getElem?_segments : (segments stream)[k]? = (segments rest).head? := by
  rw [h, List.head?_drop]

/-- Nothing is lost between the segments that are gone and what is left. -/
theorem flatten_take_append_next :
    ((segments stream).take (k + 1)).flatten ++ (next rest).2 = stream := by
  have hleft : (next rest).2 = ((segments stream).drop (k + 1)).flatten := by
    rw [← flatten_segments (next rest).2, segments_next, h, List.drop_drop]
  rw [hleft, ← List.flatten_append, List.take_append_drop, flatten_segments]

end

/-- A request whose prompt is taken takes the next segment off. -/
theorem takesSegment_of_accepted {stream : Bytes} {k : Nat} {q : Pipe} {prompt : Text}
    (hsegments : segments q.input = (segments stream).drop k)
    (h : (q.writer.write prompt.encode).2.2 = .ok ()) :
    TakesSegment stream k q (q.read prompt) := by
  have hhead := getElem?_segments hsegments
  have hwhole := flatten_take_append_next hsegments
  rw [read_of_accepted h]
  cases hinput : q.input with
  | nil =>
      rw [hinput] at hwhole hhead
      refine ⟨?_, hwhole, ?_, fun _ => rfl⟩
      · rw [hhead, hinput]
        rfl
      · intro segment hsome
        cases hhead.symm.trans hsome
  | cons b bs =>
      rw [hinput] at hwhole hhead
      rw [segments_of_ne_nil (List.cons_ne_nil b bs), List.head?_cons] at hhead
      refine ⟨?_, hwhole, ?_, ?_⟩
      · rw [hhead, hinput]
        exact (nextSegment_append (b :: bs)).symm
      · intro segment hsome
        obtain rfl := Option.some.inj (hhead.symm.trans hsome)
        exact ⟨_, rfl, line_of_mem_segments (List.mem_of_getElem? hhead)⟩
      · intro hnone
        cases hhead.symm.trans hnone

/-- The answers are the lines in order, and then the end as often as it is asked for. -/
theorem answers_of_takes {p : Pipe} {prompts : List Text} (h : p.writer.Takes prompts) :
    LineSource.answers p prompts =
      ((lines (decode p.input)).map Reply.line ++
        List.replicate prompts.length Reply.eof).take prompts.length := by
  have hlength := congrArg List.length (replies_of_takes h)
  rw [List.length_map, List.length_map, LineSource.length_readings] at hlength
  have horder := answers_in_order p (Nat.le_refl prompts.length)
  rwa [List.prefix_iff_eq_take, ← hlength] at horder

/-- Behind an end there is nothing but ends. -/
theorem eof_of_mem_later {p : Pipe} {prompts : List Text} {before later : List Reply}
    (h : LineSource.answers p prompts = before ++ .eof :: later) :
    ∀ reply ∈ later, reply = .eof := by
  obtain ⟨more, horder⟩ := answers_in_order p (Nat.le_refl prompts.length)
  rw [h, List.append_assoc, List.append_eq_append_iff] at horder
  have hends : ∃ front, List.replicate prompts.length Reply.eof = front ++ .eof :: later ++ more := by
    obtain ⟨rest, hlines, hrest⟩ | ⟨front, -, hfront⟩ := horder
    · cases rest with
      | nil => exact ⟨[], hrest.symm⟩
      | cons reply rest =>
          -- An end is no line.
          obtain ⟨rfl, -⟩ := List.cons.inj hrest
          have hmem : Reply.eof ∈ (lines (decode p.input)).map Reply.line := by simp [hlines]
          simp at hmem
    · exact ⟨front, by rw [hfront, List.append_assoc]⟩
  obtain ⟨front, hends⟩ := hends
  intro reply hreply
  refine List.eq_of_mem_replicate (n := prompts.length) ?_
  rw [hends]
  simp [hreply]

/-! ## Lines with their ends -/

/-- What a line can be ended with. -/
inductive Ending
  | newline
  | returnNewline
  deriving DecidableEq, Repr

def Ending.text : Ending → Text
  | newline => ['\n']
  | returnNewline => ['\r', '\n']

/-- A line with its end. A line that ends with a carriage return of its own has to be ended with another
one. -/
structure EndedLine where
  text : Text
  ending : Ending
  newline_not_mem : '\n' ∉ text
  unambiguous : ending = .newline → text.getLast? ≠ some '\r'

def EndedLine.source (l : EndedLine) : Text := l.text ++ l.ending.text

theorem lines_source_append (l : EndedLine) (rest : Text) :
    lines (l.source ++ rest) = l.text :: lines rest := by
  obtain ⟨text, ending, hnewline, hreturn⟩ := l
  cases ending with
  | newline =>
      have hsource : EndedLine.source ⟨text, .newline, hnewline, hreturn⟩ ++ rest =
          text ++ '\n' :: rest := by
        simp [EndedLine.source, Ending.text]
      rw [hsource, lines_append_cons hnewline, dropReturn, if_neg (hreturn rfl)]
  | returnNewline =>
      have hsource : EndedLine.source ⟨text, .returnNewline, hnewline, hreturn⟩ ++ rest =
          (text ++ ['\r']) ++ '\n' :: rest := by
        simp [EndedLine.source, Ending.text]
      have hwith : '\n' ∉ text ++ ['\r'] := by
        simp [hnewline]
      rw [hsource, lines_append_cons hwith, dropReturn, if_pos List.getLast?_concat,
        List.dropLast_concat]

theorem lines_flatMap_source (ls : List EndedLine) {last : Text} (h : '\n' ∉ last) :
    lines (ls.flatMap EndedLine.source ++ last) =
      ls.map EndedLine.text ++ [last].filter (· ≠ []) := by
  induction ls with
  | nil =>
      by_cases hne : last = []
      · simp [hne]
      · simp [lines_of_not_mem h hne, hne]
  | cons l ls ih =>
      rw [List.flatMap_cons, List.append_assoc, lines_source_append, ih, List.map_cons,
        List.cons_append]

/-! ## The whole stream -/

/-- If every prompt is taken, every request is answered, and each takes the next segment off the stream
and answers with the line in it. The segments are as many as the newlines, and one more if the stream does
not end with a newline; after them the end is answered from then on. Whoever writes lines to a stream,
each with an end that can be told from it, gets them back. -/
theorem partition_spec {p : Pipe} {prompts : List Text} (h : p.writer.Takes prompts) :
    let answers := LineSource.answers p prompts
    (∀ parts, IsCutBehindNewlines p.input parts ↔ parts = segments p.input) ∧
    (LineSource.readings p prompts).map Reading.reply = answers.map .ok ∧
    (∀ before prompt later, prompts = before ++ prompt :: later →
      let q := LineSource.after p before
      TakesSegment p.input before.length q (q.read prompt)) ∧
    (.eof ∈ answers → (answers.takeWhile (· ≠ .eof)).length =
      p.input.count 10 + if p.input = [] ∨ p.input.getLast? = some 10 then 0 else 1) ∧
    (∀ before later, answers = before ++ .eof :: later → ∀ reply ∈ later, reply = .eof) ∧
    ∀ (ls : List EndedLine) (last : Text), '\n' ∉ last →
      p.input = encode (ls.flatMap EndedLine.source ++ last) →
      answers = ((ls.map EndedLine.text ++ [last].filter (· ≠ [])).map Reply.line ++
        List.replicate prompts.length Reply.eof).take prompts.length := by
  refine ⟨fun _ => isCutBehindNewlines_iff, replies_of_takes h, ?_, ?_,
    fun _ _ => eof_of_mem_later, ?_⟩
  · rintro before prompt later rfl
    obtain ⟨hbefore, hprompt⟩ := takes_append_cons h
    exact takesSegment_of_accepted (segments_after hbefore) hprompt
  · intro heof
    rw [takeWhile_answers heof, List.length_map, lines_decode_eq_map, List.length_map,
      length_segments]
  · intro ls last hlast hinput
    rw [answers_of_takes h, hinput, decode_encode, lines_flatMap_source ls hlast]

/-- There is room for three prompts, and the third request finds the end of two lines, of which the second
has no end of line. -/
theorem partition_spec_of_two_lines :
    let ls : List EndedLine := [⟨['a'], .returnNewline, by decide, by decide⟩]
    let p : Pipe := ⟨encode (ls.flatMap EndedLine.source ++ ['b']), .room 15⟩
    let prompts := List.replicate 3 "xsh# ".toList
    (p.writer.Takes prompts ∧ '\n' ∉ ['b']) ∧
    LineSource.answers p prompts = [.line ['a'], .line ['b'], .eof] := by
  intro ls p prompts
  have htakes : p.writer.Takes prompts := ⟨rfl, rfl, rfl, trivial⟩
  have hlast : '\n' ∉ ['b'] := by decide
  obtain ⟨-, -, -, -, -, hlines⟩ := partition_spec htakes
  refine ⟨⟨htakes, hlast⟩, ?_⟩
  rw [hlines ls ['b'] hlast rfl]
  rfl

end Pipe

end LineShell
