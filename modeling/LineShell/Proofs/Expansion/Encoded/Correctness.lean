import LineShell.Proofs.Expansion.Correctness
import LineShell.Proofs.Expansion.Encoded.Semantics

/-! # Correctness of the expansion of bytes

At every step the buffer and what is left of the line are encoded text, and the buffer keeps within its
limit. So no cut falls inside a character, and what the loop appends is the encoding of what expansion
appends to the text. -/

namespace LineShell

open Text

/-- The buffer that holds a text, unless the text is too long. -/
def bounded (t : Text) : Except Stop Bytes :=
  if t.size ≤ maxLine then .ok (encode t) else .error .lineTooLong

theorem pushBytes_encode (s t : Text) : pushBytes (encode s) (encode t) = bounded (s ++ t) := by
  rw [pushBytes, bounded, length_encode, length_encode, encode_append, size_append]
  by_cases h : s.size + t.size ≤ maxLine
  · rw [if_pos h, if_neg (Nat.not_lt.mpr h)]
  · rw [if_neg h, if_pos (Nat.lt_of_not_ge h)]

/-- A text that is too long stays so, whatever is appended to it. -/
theorem bounded_bind {s t : Text} {f : Bytes → Except Stop Bytes}
    (h : s.size ≤ maxLine → f (encode s) = bounded (s ++ t)) : bounded s >>= f = bounded (s ++ t) := by
  by_cases hs : s.size ≤ maxLine
  · rw [bounded, if_pos hs]
    exact h hs
  · have hlong : ¬ (s ++ t).size ≤ maxLine := by
      rw [size_append]
      omega
    rw [bounded, bounded, if_neg hs, if_neg hlong]
    rfl

/-- The text of a variable, where one that is not there has none. -/
def textOf (values : Bytes → Option Bytes) (name : Text) : Text :=
  decode ((values (encode name)).getD [])

section
variable {values : Bytes → Option Bytes}
  (hvalues : ∀ name value, values name = some value → IsUtf8 value)
include hvalues

theorem pushValue_encode {buffer : Text} (h : buffer.size ≤ maxLine) (name : Text) :
    pushValue (encode buffer) (values (encode name)) = bounded (buffer ++ textOf values name) := by
  rw [textOf]
  cases hvalue : values (encode name) with
  | none =>
      rw [Option.getD_none, decode_nil, List.append_nil, bounded, if_pos h]
      rfl
  | some value =>
      rw [Option.getD_some, ← pushBytes_encode, (hvalues _ _ hvalue).encode_decode]
      rfl

namespace Scan

/-! ## Safety -/

/-- The buffer and what is left of the line are text, and the buffer is not too long. -/
structure Sound (st : Scan) : Prop where
  buffer : IsUtf8 st.buffer
  rest : IsUtf8 st.rest
  bounded : st.buffer.length ≤ maxLine

omit hvalues in
theorem sound_of_bounded {f : Bytes → Scan} (rest : Text) (hbuffer : ∀ bs, (f bs).buffer = bs)
    (hrest : ∀ bs, (f bs).rest = encode rest) (t : Text) :
    f <$> bounded t = .error .lineTooLong ∨ ∃ next, f <$> bounded t = .ok next ∧ next.Sound := by
  by_cases h : t.size ≤ maxLine
  · rw [bounded, if_pos h]
    refine .inr ⟨f (encode t), rfl, ?_, ?_, ?_⟩
    · rw [hbuffer]
      exact isUtf8_encode t
    · rw [hrest]
      exact isUtf8_encode rest
    · rwa [hbuffer, length_encode]
  · rw [bounded, if_neg h]
    exact .inl rfl

/-- A step from a sound state fails only for length, and leads to a sound state. -/
theorem step_of_sound {st : Scan} (h : st.Sound) :
    step values st = .error .lineTooLong ∨ ∃ next, step values st = .ok next ∧ next.Sound := by
  obtain ⟨⟨buffer, hbuffer⟩, ⟨rest, hrest⟩, hbounded⟩ := h
  cases st with
  | line bs cs =>
      obtain rfl : encode buffer = bs := hbuffer
      obtain rfl : encode rest = cs := hrest
      by_cases hdollar : '$' ∈ rest
      · obtain ⟨literal, after, rfl, hliteral⟩ := List.eq_append_cons_of_mem hdollar
        rw [step_line_append hliteral, pushBytes_encode]
        exact sound_of_bounded after (fun _ => rfl) (fun _ => rfl) _
      · rw [step_line_of_not_mem hdollar, pushBytes_encode]
        exact sound_of_bounded [] (fun _ => rfl) (fun _ => rfl) _
  | name bs cs =>
      obtain rfl : encode buffer = bs := hbuffer
      obtain rfl : encode rest = cs := hrest
      -- The search stops between two characters, behind the name characters of the text.
      have hsplit := List.takeWhile_append_dropWhile (p := isNameChar) (l := rest)
      have hfits : buffer.size ≤ maxLine := by rwa [← length_encode]
      rw [← hsplit, step_name_append (fun c hc => List.mem_takeWhile_imp hc)
        (fun c hc => not_of_mem_head?_dropWhile hc), pushValue_encode hvalues hfits]
      exact sound_of_bounded _ (fun _ => rfl) (fun _ => rfl) _
  | done result => exact .inr ⟨done result, rfl, ⟨buffer, hbuffer⟩, ⟨rest, hrest⟩, hbounded⟩

theorem sound_of_visits {start st : Scan} (hstart : start.Sound) (h : Visits values start st) :
    st.Sound := by
  induction h with
  | start => exact hstart
  | next h hlast ih =>
      rcases step_of_sound hvalues ih with hstep | ⟨next, hstep, hnext⟩
      · rw [hstep] at hlast
        cases hlast
      · rw [hstep] at hlast
        cases hlast
        exact hnext

/-! ## Results -/

/-- The loop follows the maximal decomposition of the line, with two steps for each reference. -/
theorem run_source {d : Decomposition} (hmax : d.IsMaximal) {buffer : Text}
    (hbuffer : buffer.size ≤ maxLine) :
    run values (line (encode buffer) (encode d.source)) =
      bounded (buffer ++ d.render (textOf values)) := by
  obtain ⟨front, references⟩ := d
  induction references generalizing front buffer with
  | nil =>
      rw [Decomposition.source, Decomposition.render_nil, Decomposition.render_nil, run_eq_bind rfl,
        step_line_of_not_mem hmax.front, pushBytes_encode, bind_map_left]
      simp only [run_done]
      exact bind_pure _
  | cons r rs ih =>
      obtain ⟨hfront, hname, -, htail⟩ := Decomposition.isMaximal_cons_iff.mp hmax
      rw [Decomposition.source_cons, Decomposition.render_cons, run_eq_bind rfl,
        step_line_append hfront, pushBytes_encode, bind_map_left, ← List.append_assoc]
      -- The literal text and then the value are appended, each to a buffer within its limit.
      refine bounded_bind fun hliteral => ?_
      rw [run_eq_bind rfl, step_name_append hname hmax.not_isNameChar_behind,
        pushValue_encode hvalues hliteral, bind_map_left, ← List.append_assoc]
      exact bounded_bind fun hvalue => ih hvalue r.literal htail

theorem run_encode (t : Text) :
    run values (line [] (encode t)) = bounded (t.substitute (textOf values)) := by
  have hempty : Text.size [] ≤ maxLine := Nat.zero_le maxLine
  have hrun := run_source hvalues (isMaximal_decompose t) hempty
  rwa [source_decompose] at hrun

end Scan

end

/-! ## Whole lines -/

/-- The values of a store as bytes. -/
def Store.bytes (s : Store) (name : Bytes) : Option Bytes := (s.get? (decode name)).map encode

theorem Store.bytes_encode (s : Store) (name : Text) :
    s.bytes (encode name) = (s.get? name).map encode := by
  rw [bytes, decode_encode]

theorem Store.isUtf8_bytes {s : Store} {name value : Bytes} (h : s.bytes name = some value) :
    IsUtf8 value := by
  obtain ⟨text, -, htext⟩ := Option.map_eq_some_iff.mp h
  exact ⟨text, htext⟩

/-- Expands bytes. Without a `$` they are kept as they are. -/
def expandBytes (values : Bytes → Option Bytes) (line : Bytes) : Except Stop Bytes :=
  if dollar ∈ line then Scan.run values (.line [] line) else .ok line

section
variable {values : Bytes → Option Bytes}
  (hvalues : ∀ name value, values name = some value → IsUtf8 value)
include hvalues

theorem expandBytes_encode (t : Text) :
    expandBytes values (encode t) =
      if dollar ∈ encode t ∧ maxLine < (t.substitute (textOf values)).size then .error .lineTooLong
      else .ok (encode (t.substitute (textOf values))) := by
  rw [expandBytes]
  by_cases hdollar : dollar ∈ encode t
  · rw [if_pos hdollar, Scan.run_encode hvalues, bounded]
    by_cases hsize : (t.substitute (textOf values)).size ≤ maxLine
    · rw [if_pos hsize, if_neg fun hn => Nat.not_lt.mpr hsize hn.2]
    · rw [if_neg hsize, if_pos ⟨hdollar, Nat.lt_of_not_ge hsize⟩]
  · have hmem : '$' ∉ t := fun h => hdollar (dollar_mem_encode_iff.mpr h)
    rw [if_neg hdollar, if_neg fun hn => hdollar hn.1, substitute_of_not_mem _ hmem]

/-- With the values of a store, the result is the encoding of the expanded text. -/
theorem expandBytes_eq_expand {store : Store}
    (hstore : ∀ name, values (encode name) = (store.get? name).map encode) (t : Text) :
    expandBytes values (encode t) =
      (expand store t).1.elim (.error .lineTooLong) fun result => .ok (encode result) := by
  have htext : textOf values = store.value := by
    funext name
    rw [textOf, hstore, Store.value]
    cases store.get? name with
    | none => exact decode_nil
    | some value => exact decode_encode value
  simp only [expandBytes_encode hvalues, expand_result, htext, dollar_mem_encode_iff]
  split <;> rfl

end

/-- Let the line and all values be encoded text. No step of the loop cuts out of range or inside a
character, the buffer always is encoded text and takes at most 1023 bytes, and what is left of the line
gets shorter from each literal to the next, until the loop ends with a result or with a text that is too
long. The result is the encoding of the line with its references replaced, and so it is the one that
expansion gives for the text. -/
theorem expandBytes_spec {values : Bytes → Option Bytes} {line : Bytes} (hline : IsUtf8 line)
    (hvalues : ∀ name value, values name = some value → IsUtf8 value) :
    (∀ st, Scan.Visits values (.line [] line) st →
      Scan.step values st ≠ .error .badSlice ∧ IsUtf8 st.buffer ∧ IsUtf8 st.rest ∧
        st.buffer.length ≤ 1023 ∧
        ∀ text : Bytes, text.length < 2 ^ 63 → st.buffer.length + text.length < 2 ^ 64) ∧
    (∀ buffer rest next last, Scan.step values (.line buffer rest) = .ok next →
      next.result? = none → Scan.step values next = .ok last →
      ∃ buffer' rest', last = .line buffer' rest' ∧ rest'.length < rest.length) ∧
    (∃ last, Scan.Visits values (.line [] line) last ∧
      ((Scan.step values last = .error .lineTooLong ∧
          Scan.run values (.line [] line) = .error .lineTooLong) ∨
        ∃ result, last = .done result ∧ Scan.run values (.line [] line) = .ok result)) ∧
    (∀ result, expandBytes values line = .ok result → IsUtf8 result) ∧
    (expandBytes values line =
      if dollar ∈ line ∧ 1023 < ((decode line).substitute (textOf values)).size then
        .error .lineTooLong
      else .ok (encode ((decode line).substitute (textOf values)))) ∧
    ∀ store : Store, (∀ name, values (encode name) = (store.get? name).map encode) →
      expandBytes values line =
        (expand store (decode line)).1.elim (.error .lineTooLong) fun result =>
          .ok (encode result) := by
  obtain ⟨t, rfl⟩ := hline
  have hstart : (Scan.line [] (encode t)).Sound :=
    ⟨isUtf8_encode [], isUtf8_encode t, Nat.zero_le _⟩
  have hsound : ∀ st, Scan.Visits values (.line [] (encode t)) st → st.Sound :=
    fun _ => Scan.sound_of_visits hvalues hstart
  have hresult := expandBytes_encode hvalues t
  rw [decode_encode]
  refine ⟨?_, fun _ _ _ _ => Scan.length_rest_lt, ?_, ?_, hresult, ?_⟩
  · intro st hvisits
    obtain ⟨hbuffer, hrest, hbounded⟩ := hsound st hvisits
    refine ⟨?_, hbuffer, hrest, hbounded, ?_⟩
    · rcases Scan.step_of_sound hvalues (hsound st hvisits) with hstep | ⟨next, hstep, -⟩
      · simp [hstep]
      · simp [hstep]
    · intro text htext
      have hlimit : maxLine = 1023 := rfl
      omega
  · rcases Scan.run_cases values (.line [] (encode t)) with
      ⟨result, hvisits, hrun⟩ | ⟨last, e, hvisits, hlast, hrun⟩
    · exact ⟨_, hvisits, .inr ⟨result, rfl, hrun⟩⟩
    · rcases Scan.step_of_sound hvalues (hsound last hvisits) with hstep | ⟨next, hstep, -⟩
      · obtain rfl : e = .lineTooLong := Except.error.inj (hlast.symm.trans hstep)
        exact ⟨last, hvisits, .inl ⟨hlast, hrun⟩⟩
      · rw [hstep] at hlast
        cases hlast
  · intro result h
    rw [hresult] at h
    split at h
    · cases h
    · cases h
      exact isUtf8_encode _
  · exact fun store hstore => expandBytes_eq_expand hvalues hstore t

/-- A crab takes four bytes, and the value between two of them takes three. -/
theorem expandBytes_spec_of_crabs :
    let store := Store.empty.insert "X".toList "值".toList
    let line := encode "🦀$X🦀".toList
    (IsUtf8 line ∧ (∀ name value, store.bytes name = some value → IsUtf8 value) ∧
      ∀ name, store.bytes (encode name) = (store.get? name).map encode) ∧
    expandBytes store.bytes line = .ok (encode "🦀值🦀".toList) := by
  intro store line
  have hline : IsUtf8 line := isUtf8_encode _
  have hvalues : ∀ name value, store.bytes name = some value → IsUtf8 value :=
    fun _ _ => Store.isUtf8_bytes
  refine ⟨⟨hline, hvalues, store.bytes_encode⟩, ?_⟩
  obtain ⟨-, -, -, -, -, hstore⟩ := expandBytes_spec hline hvalues
  have hexpand : (expand store "🦀$X🦀".toList).1 = some "🦀值🦀".toList := by decide +kernel
  rw [hstore store store.bytes_encode, decode_encode, hexpand]
  rfl

end LineShell
