import LineShell.Input.Basic

/-! Lines from a stream of bytes. A line ends at a newline, which is not part of it and neither is
one carriage return in front of it; what is left behind the last newline is a line too. -/

namespace LineShell

/-- What prompts are written to. -/
inductive Writer
  /-- Takes everything. -/
  | unlimited
  /-- Takes some bytes more and then no more. -/
  | room (bytes : Nat)
  /-- Refuses to take anything. -/
  | refusing (reason : Errno)
  deriving DecidableEq, Repr

namespace Writer

/-- Writes bytes as far as they fit: what was written, the writer afterwards, and whether all of
them fitted. Nothing at all always fits. -/
def write (w : Writer) (bytes : Bytes) : Bytes × Writer × Except InputError Unit :=
  match w with
  | unlimited => (bytes, unlimited, .ok ())
  | room n =>
    (bytes.take n, room (n - bytes.length),
      if bytes.length ≤ n then .ok () else .error .shortWrite)
  | refusing reason =>
    ([], refusing reason, if bytes = [] then .ok () else .error (.refused reason))

end Writer

/-- A newline ends a line. -/
def isNewline (b : UInt8) : Bool := b == 10

/-- A stream of bytes to read from and a writer for prompts. -/
structure Pipe where
  input : Bytes
  writer : Writer

namespace Pipe

/-- The bytes up to the first newline with it, and those behind it. -/
def nextSegment : Bytes → Bytes × Bytes
  | [] => ([], [])
  | b :: bs =>
    if isNewline b then ([b], bs)
    else
      let rest := nextSegment bs
      (b :: rest.1, rest.2)

theorem nextSegment_append (bs : Bytes) : (nextSegment bs).1 ++ (nextSegment bs).2 = bs := by
  fun_induction nextSegment bs with
  | case1 => rfl
  | case2 => rfl
  | case3 b bs h rest ih => simpa using ih

/-- Takes the end of line off a segment, if it has one. -/
def content (segment : Bytes) : Bytes :=
  match segment.reverse with
  | 10 :: 13 :: rest => rest.reverse
  | 10 :: rest => rest.reverse
  | _ => segment

/-- Writes the prompt, and if that fits reads the next segment. -/
def read (prompt : Text) (p : Pipe) : Reading Pipe :=
  match p.writer.write prompt.encode with
  | (written, writer, .error e) => ⟨.error e, written, { p with writer }⟩
  | (written, writer, .ok ()) =>
    match p.input with
    | [] => ⟨.ok .eof, written, { p with writer }⟩
    | b :: bs =>
      ⟨.ok (.line (Text.decode (content (nextSegment (b :: bs)).1))), written,
        { input := (nextSegment (b :: bs)).2, writer }⟩

theorem length_of_line {prompt : Text} {p : Pipe} {text : Text}
    (h : (p.read prompt).reply = .ok (.line text)) :
    (p.read prompt).source.input.length < p.input.length := by
  unfold read at h ⊢
  split at h
  · simp at h
  · rename_i hw
    split at h
    · simp at h
    · rename_i b bs hp
      have hlen := congrArg List.length (nextSegment_append (b :: bs))
      have hpos : (nextSegment (b :: bs)).1 ≠ [] := by
        unfold nextSegment
        split <;> simp
      have := List.length_pos_iff.mpr hpos
      simp only [hp]
      simp only [List.length_append] at hlen
      omega

theorem reply_ne_interrupted (prompt : Text) (p : Pipe) :
    (p.read prompt).reply ≠ .ok .interrupted := by
  unfold read
  split
  · simp
  · split <;> simp

instance : LineSource Pipe where
  read := read
  size p := p.input.length
  size_of_line := length_of_line
  size_of_interrupted h := absurd h (reply_ne_interrupted _ _)

theorem lineSource_read (p : Pipe) (prompt : Text) :
    LineSource.read prompt p = p.read prompt := rfl

end Pipe

end LineShell
