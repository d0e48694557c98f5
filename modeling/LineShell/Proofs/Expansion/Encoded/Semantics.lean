import LineShell.Limits
import LineShell.Proofs.Expansion.Decomposition
import LineShell.Proofs.Utf8.Slices

/-! # Expansion of bytes

Expansion may work on encoded text, with offsets into what is left of the line. It is a loop with two
steps in turn: one goes to the next `$`, the other reads the name behind it. Either may fail, by a cut
that does not fall between characters or because the buffer is full. The line gets shorter from each
`$` to the next, so the loop ends. -/

namespace LineShell

open Text

/-- Why the expansion of bytes ends early. -/
inductive Stop
  /-- A cut out of range or inside a character. -/
  | badSlice
  | lineTooLong
  deriving DecidableEq, Repr

/-! ## The byte of `$` -/

def dollar : UInt8 := 0x24

theorem utf8EncodeChar_dollar : String.utf8EncodeChar '$' = [dollar] := by decide

theorem dollar_mem_encode_iff {t : Text} : dollar ∈ encode t ↔ '$' ∈ t := by
  constructor
  · exact mem_of_mem_encode (by decide) (by decide)
  · intro h
    refine List.mem_flatMap.mpr ⟨'$', h, ?_⟩
    rw [utf8EncodeChar_dollar]
    exact List.mem_singleton_self dollar

theorem findIdx?_dollar_of_not_mem {t : Text} (h : '$' ∉ t) :
    (encode t).findIdx? (· == dollar) = none := by
  refine List.findIdx?_eq_none_iff.mpr fun b hb => beq_false_of_ne ?_
  rintro rfl
  exact h (dollar_mem_encode_iff.mp hb)

theorem findIdx?_dollar_append {literal : Text} (h : '$' ∉ literal) (after : Text) :
    (encode (literal ++ '$' :: after)).findIdx? (· == dollar) = some (encode literal).length := by
  rw [encode_append, encode_cons, utf8EncodeChar_dollar, List.findIdx?_append,
    findIdx?_dollar_of_not_mem h, Option.none_or, List.singleton_append, List.findIdx?_cons]
  simp

/-! ## The loop -/

/-- The bytes between two offsets, where it is a fault to ask for others than whole characters. -/
def bytesBetween (bs : Bytes) (start stop : Nat) : Except Stop Bytes :=
  (slice? bs start stop).elim (.error .badSlice) .ok

/-- Appends bytes to the buffer, unless it would become too long. -/
def pushBytes (buffer text : Bytes) : Except Stop Bytes :=
  if maxLine < buffer.length + text.length then .error .lineTooLong else .ok (buffer ++ text)

/-- Appends the value of a variable; one that is not there leaves the buffer as it is. -/
def pushValue (buffer : Bytes) (value : Option Bytes) : Except Stop Bytes :=
  value.elim (.ok buffer) (pushBytes buffer)

/-- The expansion of bytes between two steps. -/
inductive Scan
  /-- The buffer and what is left of the line. -/
  | line (buffer rest : Bytes)
  /-- The same behind a `$`. -/
  | name (buffer rest : Bytes)
  | done (result : Bytes)
  deriving DecidableEq, Repr

namespace Scan

def buffer : Scan → Bytes
  | line buffer _ | name buffer _ | done buffer => buffer

/-- What is left of the line. -/
def rest : Scan → Bytes
  | line _ rest | name _ rest => rest
  | done _ => []

def result? : Scan → Option Bytes
  | done result => some result
  | line _ _ | name _ _ => none

/-- One step, with the values of variables. Up to the next `$` the line is taken as it is; behind it, the
bytes up to the first character that is in no name are looked up. -/
def step (values : Bytes → Option Bytes) : Scan → Except Stop Scan
  | line buffer rest =>
    match rest.findIdx? (· == dollar) with
    | none => do
      let result ← pushBytes buffer rest
      return done result
    | some offset => do
      let literal ← bytesBetween rest 0 offset
      let buffer ← pushBytes buffer literal
      let after ← bytesBetween rest (offset + 1) rest.length
      return name buffer after
  | name buffer after => do
    let length := (findChar? (fun c => !isNameChar c) after).getD after.length
    let found ← bytesBetween after 0 length
    let buffer ← pushValue buffer (values found)
    let rest ← bytesBetween after length after.length
    return line buffer rest
  | done result => return done result

/-! ## Progress -/

variable {values : Bytes → Option Bytes}

theorem exists_of_bind_eq_ok {ε α β : Type} {x : Except ε α} {f : α → Except ε β} {b : β}
    (h : x >>= f = .ok b) : ∃ a, x = .ok a ∧ f a = .ok b := by
  cases x with
  | error e => cases h
  | ok a => exact ⟨a, rfl, h⟩

theorem length_of_bytesBetween {bs part : Bytes} {start stop : Nat}
    (h : bytesBetween bs start stop = .ok part) : part.length ≤ bs.length - start := by
  rw [bytesBetween] at h
  cases hslice : slice? bs start stop with
  | none =>
      rw [hslice] at h
      cases h
  | some found =>
      rw [hslice] at h
      cases h
      exact length_of_slice? hslice

/-- The line is used up, or it is read past a `$`. -/
theorem step_line_cases {buffer rest : Bytes} {next : Scan}
    (h : step values (line buffer rest) = .ok next) :
    (∃ result, next = done result) ∨
      ∃ buffer' after, next = name buffer' after ∧ after.length < rest.length := by
  rw [step] at h
  cases hfind : rest.findIdx? (· == dollar) with
  | none =>
      rw [hfind] at h
      obtain ⟨result, -, h⟩ := exists_of_bind_eq_ok h
      cases h
      exact .inl ⟨result, rfl⟩
  | some offset =>
      rw [hfind] at h
      obtain ⟨literal, -, h⟩ := exists_of_bind_eq_ok h
      obtain ⟨buffer', -, h⟩ := exists_of_bind_eq_ok h
      obtain ⟨after, hafter, h⟩ := exists_of_bind_eq_ok h
      cases h
      refine .inr ⟨buffer', after, rfl, ?_⟩
      have hlength := length_of_bytesBetween hafter
      obtain ⟨hoffset, -⟩ := List.findIdx?_eq_some_iff_getElem.mp hfind
      omega

theorem step_name_cases {buffer after : Bytes} {next : Scan}
    (h : step values (name buffer after) = .ok next) :
    ∃ buffer' rest, next = line buffer' rest ∧ rest.length ≤ after.length := by
  rw [step] at h
  obtain ⟨found, -, h⟩ := exists_of_bind_eq_ok h
  obtain ⟨buffer', -, h⟩ := exists_of_bind_eq_ok h
  obtain ⟨rest, hrest, h⟩ := exists_of_bind_eq_ok h
  cases h
  have hlength := length_of_bytesBetween hrest
  exact ⟨buffer', rest, rfl, by omega⟩

/-- From one literal to the next the line gets shorter. -/
theorem length_rest_lt {buffer rest : Bytes} {next last : Scan}
    (h : step values (line buffer rest) = .ok next) (hnext : next.result? = none)
    (hlast : step values next = .ok last) :
    ∃ buffer' rest', last = line buffer' rest' ∧ rest'.length < rest.length := by
  rcases step_line_cases h with ⟨result, rfl⟩ | ⟨buffer', after, rfl, hafter⟩
  · cases hnext
  · obtain ⟨buffer'', rest', rfl, hrest⟩ := step_name_cases hlast
    exact ⟨buffer'', rest', rfl, Nat.lt_of_le_of_lt hrest hafter⟩

/-- What every step makes smaller. A name may be empty and leave the line as long as it was, so it counts
too which of the two steps comes next. -/
def size : Scan → Nat
  | line _ rest => 2 * rest.length + 1
  | name _ rest => 2 * rest.length + 2
  | done _ => 0

theorem size_of_step {st next : Scan} (hdone : st.result? = none)
    (h : step values st = .ok next) : next.size < st.size := by
  cases st with
  | line buffer rest =>
      rcases step_line_cases h with ⟨result, rfl⟩ | ⟨buffer', after, rfl, hafter⟩
      · exact Nat.succ_pos _
      · simp only [size]
        omega
  | name buffer after =>
      obtain ⟨buffer', rest, rfl, hrest⟩ := step_name_cases h
      simp only [size]
      omega
  | done result => cases hdone

/-- Takes steps until the line is used up. -/
def run (values : Bytes → Option Bytes) (st : Scan) : Except Stop Bytes :=
  match _hdone : st.result? with
  | some result => .ok result
  | none =>
    match _h : step values st with
    | .error e => .error e
    | .ok next => run values next
termination_by st.size
decreasing_by exact size_of_step _hdone _h

theorem run_eq_bind {st : Scan} (hdone : st.result? = none) :
    run values st = step values st >>= run values := by
  rw [run]
  split
  · rename_i result h
    rw [hdone] at h
    cases h
  · split
    · rename_i e h
      rw [h]
      rfl
    · rename_i next h
      rw [h]
      rfl

theorem run_done (result : Bytes) : run values (done result) = .ok result := by
  rw [run]
  rfl

/-- The states that are passed through from a state on. -/
inductive Visits (values : Bytes → Option Bytes) (start : Scan) : Scan → Prop
  | start : Visits values start start
  | next {st last : Scan} (h : Visits values start st) (hstep : step values st = .ok last) :
    Visits values start last

theorem Visits.of_step {st next last : Scan} (hstep : step values st = .ok next)
    (h : Visits values next last) : Visits values st last := by
  induction h with
  | start => exact .next .start hstep
  | next h hlast ih => exact .next ih hlast

/-- The loop ends, with a result or at a step that fails. -/
theorem run_cases (values : Bytes → Option Bytes) (st : Scan) :
    (∃ result, Visits values st (done result) ∧ run values st = .ok result) ∨
      ∃ last e, Visits values st last ∧ step values last = .error e ∧ run values st = .error e := by
  fun_induction run values st with
  | case1 st result hdone =>
      cases st with
      | done buffer =>
          obtain rfl : buffer = result := Option.some.inj hdone
          exact .inl ⟨buffer, .start, rfl⟩
      | line buffer rest => cases hdone
      | name buffer rest => cases hdone
  | case2 st hdone e hstep => exact .inr ⟨st, e, .start, hstep, rfl⟩
  | case3 st hdone next hstep ih =>
      rcases ih with ⟨result, hvisits, hrun⟩ | ⟨last, e, hvisits, hlast, hrun⟩
      · exact .inl ⟨result, hvisits.of_step hstep, hrun⟩
      · exact .inr ⟨last, e, hvisits.of_step hstep, hlast, hrun⟩

/-! ## Steps on encoded text -/

theorem step_line_of_not_mem {t : Text} (h : '$' ∉ t) (buffer : Bytes) :
    step values (line buffer (encode t)) = done <$> pushBytes buffer (encode t) := by
  rw [step, findIdx?_dollar_of_not_mem h]
  exact bind_pure_comp done _

theorem step_line_append {literal : Text} (h : '$' ∉ literal) (after : Text) (buffer : Bytes) :
    step values (line buffer (encode (literal ++ '$' :: after))) =
      (name · (encode after)) <$> pushBytes buffer (encode literal) := by
  have hfront := slice?_encode_front literal ('$' :: after)
  have hrest := slice?_encode_rest (literal ++ ['$']) after
  -- The `$` takes one byte, so the text behind it begins one byte behind the offset.
  have hlength : (encode (literal ++ ['$'])).length = (encode literal).length + 1 := by
    rw [encode_append, List.length_append]
    rfl
  rw [List.append_assoc, List.singleton_append, hlength] at hrest
  rw [step, findIdx?_dollar_append h]
  dsimp only
  rw [bytesBetween, bytesBetween, hfront, hrest]
  exact bind_pure_comp (name · (encode after)) (pushBytes buffer (encode literal))

theorem step_name_append {found t : Text} (hfound : ∀ c ∈ found, isNameChar c)
    (ht : ∀ c ∈ t.head?, ¬ isNameChar c) (buffer : Bytes) :
    step values (name buffer (encode (found ++ t))) =
      (line · (encode t)) <$> pushValue buffer (values (encode found)) := by
  have hlength := findChar?_encode isNameChar (found ++ t)
  rw [takeWhile_append_of_head? hfound ht] at hlength
  rw [step, hlength, bytesBetween, bytesBetween, slice?_encode_front, slice?_encode_rest]
  exact bind_pure_comp (line · (encode t)) (pushValue buffer (values (encode found)))

end Scan

end LineShell
