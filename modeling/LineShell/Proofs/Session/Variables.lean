import LineShell.Proofs.Session.Reachability
import LineShell.Unix.System

/-! # Variables written and read back

A line that is prepared to `set`, a name and words binds the name to these words, joined by blanks.
A reference gives the words back, so that what is read and written again stays the same. -/

namespace LineShell

open Text

section
variable {s : Store} {name value : Text}

theorem Store.get?_insert_self : (s.insert name value).get? name = some value := by
  rw [get?_insert, if_pos rfl]

theorem Store.get?_insert_of_ne {other : Text} (h : other ≠ name) :
    (s.insert name value).get? other = s.get? other := by
  rw [get?_insert, if_neg h]

theorem Store.value_of_get? (h : s.get? name = some value) : s.value name = value := by
  rw [Store.value, h, Option.getD_some]

end

theorem isPlain_of_isNameChar {name : Text} (hne : name ≠ []) (h : ∀ c ∈ name, isNameChar c) :
    IsPlain name := by
  refine ⟨⟨hne, ?_⟩, fun hmem => not_isNameChar_dollar (h '$' hmem)⟩
  intro c hc
  refine notBlank_iff.mpr ?_
  rintro rfl
  exact not_isNameChar_blank (h ' ' hc)

/-- A line that is prepared to an acceptable binding makes it, and changes nothing else. -/
theorem Shell.processLine_set {Files Dir : Type} [Host Files Dir] {sh : Shell Files Dir}
    {line name : Text} {words : List Text}
    (h : (prepare sh.store line).1 = .ok (Builtin.set.name :: name :: words)) (hne : words ≠ [])
    (hname : name ≠ []) (hsize : name.size ≤ maxName) (hvalue : (unwords words).size ≤ maxValue) :
    (sh.processLine line).result = .ok .goOn ∧
      (sh.processLine line).shell = { sh with store := sh.store.insert name (unwords words) } := by
  have hexit : ¬ isExit line := by
    intro hexit
    rw [prepare_of_isExit sh.store hexit] at h
    cases h
  obtain ⟨word, rest, rfl⟩ := List.exists_cons_of_ne_nil hne
  have hset : sh.store.set name (unwords (word :: rest)) =
      .ok (sh.store.insert name (unwords (word :: rest))) :=
    Store.set_eq_ok_iff.mpr ⟨hname, hsize, hvalue, rfl⟩
  have hdispatch := effect_iff.mp (Effect.bound hset)
  rw [processLine_of_ok hexit h, hdispatch]
  exact ⟨rfl, rfl⟩

/-! ## Writing words and reading them -/

/-- Take a name and plain words that are few and short enough to be a value, and any line in which
`set`, the name and the words stand with blanks between and around them. The line succeeds and binds
the name to the words, joined by blanks, and no other name. Behind a plain word, a reference to the
name then stands for just these words. -/
theorem reference_of_set {Files Dir : Type} [Host Files Dir] (sh : Shell Files Dir)
    {name line : Text} {ws : List Text} (hne : name ≠ []) (hname : ∀ c ∈ name, isNameChar c)
    (hsize : name.size ≤ 255) (hpos : 1 ≤ ws.length) (hlength : ws.length ≤ 126)
    (hplain : ∀ w ∈ ws, IsPlain w) (hvalue : (ws.map size).sum + (ws.length - 1) ≤ 255)
    (hline : Spaced ("set".toList :: name :: ws) line) (hfits : line.size ≤ 1023) :
    let after := (sh.processLine line).shell.store
    (sh.processLine line).result = .ok .goOn ∧
      after.get? name = some (unwords ws) ∧
      (∀ other, other ≠ name → after.get? other = sh.store.get? other) ∧
      ∀ word, IsPlain word → (word ++ " $".toList ++ name).size ≤ 1023 →
        (word ++ ' ' :: unwords ws).size ≤ 1023 →
        (prepare after (word ++ " $".toList ++ name)).1 = .ok (word :: ws) := by
  intro after
  rw [← size_unwords] at hvalue
  have hall := isPlain_binding (isPlain_of_isNameChar hne hname) hplain
  have hprepare : (prepare sh.store line).1 = .ok (Builtin.set.name :: name :: ws) := by
    refine prepare_spaced sh.store hline (fun w hw => (hall w hw).1) (fun w hw => (hall w hw).2)
      hfits ?_
    simp only [List.length_cons, maxWords]
    omega
  have hws : ws ≠ [] := List.ne_nil_of_length_pos hpos
  obtain ⟨hresult, hshell⟩ := Shell.processLine_set hprepare hws hne hsize hvalue
  have hafter : after = sh.store.insert name (unwords ws) := congrArg Shell.store hshell
  rw [hafter]
  refine ⟨hresult, Store.get?_insert_self, fun other h => Store.get?_insert_of_ne h, ?_⟩
  intro word hword hraw hexpanded
  have hfront : word ++ " $".toList ++ name = unwords ([word] ++ ['$' :: name]) := by
    simp [unwords]
  rw [hfront] at hraw ⊢
  refine prepare_reference ?_ ?_ hname (Store.value_of_get? Store.get?_insert_self)
    (fun w hw => (hplain w hw).1) hraw hexpanded ?_
  · exact List.forall_mem_singleton.mpr hword.1
  · exact List.forall_mem_singleton.mpr hword.2
  · rw [List.length_append, List.length_singleton, maxWords]
    omega

/-- A variable with a blank, a tab and a quote in its value, set by a line with blanks all over. -/
theorem reference_of_set_blanks :
    let sh : Shell Unix.FileSystem Unix.Inode := .start .base Unix.FileSystem.root []
    let name : Text := "N_1".toList
    let ws : List Text := ["a\tb".toList, "\"é\"".toList]
    let line : Text := "  set N_1   a\tb  \"é\" ".toList
    let after := (sh.processLine line).shell.store
    (name ≠ [] ∧ (∀ c ∈ name, isNameChar c) ∧ name.size ≤ 255 ∧ 1 ≤ ws.length ∧ ws.length ≤ 126 ∧
      (∀ w ∈ ws, IsPlain w) ∧ (ws.map size).sum + (ws.length - 1) ≤ 255 ∧
      Spaced ("set".toList :: name :: ws) line ∧ line.size ≤ 1023) ∧
    (sh.processLine line).result = .ok .goOn ∧ after.get? name = some (unwords ws) ∧
      (∀ other, other ≠ name → after.get? other = sh.store.get? other) ∧
      ∀ word, IsPlain word → (word ++ " $".toList ++ name).size ≤ 1023 →
        (word ++ ' ' :: unwords ws).size ≤ 1023 →
        (prepare after (word ++ " $".toList ++ name)).1 = .ok (word :: ws) := by
  intro sh name ws line after
  have hplain : ∀ w ∈ ws, IsPlain w := by
    simp [ws, IsPlain, IsWord, notBlank]
  have hline : Spaced ("set".toList :: name :: ws) line :=
    .blank (.blank (.next _ (.next _ (.blank (.blank (.next _ (.blank (.next _ .nil))))))))
  have hall : name.all isNameChar := by decide
  have hname : ∀ c ∈ name, isNameChar c := List.all_eq_true.mp hall
  have hne : name ≠ [] := by decide
  have hsize : name.size ≤ 255 := by decide
  have hpos : 1 ≤ ws.length := by decide
  have hlength : ws.length ≤ 126 := by decide
  have hvalue : (ws.map size).sum + (ws.length - 1) ≤ 255 := by decide
  have hfits : line.size ≤ 1023 := by decide
  exact ⟨⟨hne, hname, hsize, hpos, hlength, hplain, hvalue, hline, hfits⟩,
    reference_of_set sh hne hname hsize hpos hlength hplain hvalue hline hfits⟩

/-! ## Copies -/

/-- The words of a value leave room for the two words in front of them. -/
theorem prepare_copy {s : Store} {target source : Text} {ws : List Text}
    (htarget : IsPlain target) (htargetSize : target.size ≤ 255)
    (hsource : ∀ c ∈ source, isNameChar c) (hsourceSize : source.size ≤ 255)
    (hlength : ws.length ≤ 126) (hplain : ∀ w ∈ ws, IsPlain w) (hsize : (unwords ws).size ≤ 255)
    (hvalue : s.value source = unwords ws) :
    (prepare s ("set ".toList ++ target ++ " $".toList ++ source)).1 =
      .ok (Builtin.set.name :: target :: ws) := by
  have hsizes : ∀ last : Text,
      size (unwords ([Builtin.set.name, target] ++ [last])) = target.size + last.size + 5 := by
    intro last
    rw [size_unwords]
    simp only [List.cons_append, List.nil_append, List.map_cons, List.map_nil, List.sum_cons,
      List.sum_nil, List.length_cons, List.length_nil, size_set]
    omega
  have hdollar : '$'.utf8Size = 1 := rfl
  have hline : "set ".toList ++ target ++ " $".toList ++ source =
      unwords ([Builtin.set.name, target] ++ ['$' :: source]) := by
    rw [List.append_assoc, List.append_assoc]
    rfl
  have hfront : ∀ w ∈ [Builtin.set.name, target], IsPlain w :=
    isPlain_binding htarget (List.forall_mem_nil _)
  rw [hline]
  refine prepare_reference (fun w hw => (hfront w hw).1) (fun w hw => (hfront w hw).2) hsource
    hvalue (fun w hw => (hplain w hw).1) ?_ ?_ ?_
  · rw [hsizes, size_cons, hdollar, maxLine]
    omega
  · rw [hsizes, maxLine]
    omega
  · simp only [List.cons_append, List.nil_append, List.length_cons, maxWords]
    omega

/-- In every state that a session leads to, the line `set B $A` copies a variable `A`, unless it has
a name that no reference can have: it succeeds, binds `B` to the value of `A` just as it is, and
changes no other variable. `B` may be any name without a blank or a `$`, also `A` itself. -/
theorem copy_of_session {Files Dir : Type} [Host Files Dir] (files : Files) (dir : Dir)
    (environment : Environment) (lines : List Text) {source target value : Text}
    (hname : ∀ c ∈ source, isNameChar c)
    (hbound : ((Shell.start files dir environment).session lines).store.get? source = some value)
    (htarget : IsPlain target) (hsize : target.size ≤ 255) :
    let sh := (Shell.start files dir environment).session lines
    let o := sh.processLine ("set ".toList ++ target ++ " $".toList ++ source)
    o.result = .ok .goOn ∧ o.shell.store.get? target = some value ∧
      ∀ other, other ≠ target → o.shell.store.get? other = sh.store.get? other := by
  intro sh o
  have hs : sh.store.WellFormed := Shell.wellFormed_session files dir environment lines
  obtain ⟨⟨-, hsourceSize⟩, ws, hpos, hlength, hplain, rfl, hvalue⟩ := hs source value hbound
  have hprepare := prepare_copy htarget hsize hname hsourceSize hlength hplain hvalue
    (Store.value_of_get? hbound)
  have hws : ws ≠ [] := List.ne_nil_of_length_pos hpos
  obtain ⟨hresult, hshell⟩ := Shell.processLine_set hprepare hws htarget.1.1 hsize hvalue
  have hstore : o.shell.store = sh.store.insert target (unwords ws) := congrArg Shell.store hshell
  rw [hstore]
  exact ⟨hresult, Store.get?_insert_self, fun other h => Store.get?_insert_of_ne h⟩

/-- A variable that another line has made of two others, copied onto itself. -/
theorem copy_of_session_itself :
    let files := Unix.FileSystem.base
    let root := Unix.FileSystem.root
    let lines : List Text := ["set A x".toList, "set  B $A  y".toList]
    let sh := (Shell.start files root []).session lines
    let o := sh.processLine ("set ".toList ++ "B".toList ++ " $".toList ++ "B".toList)
    ((∀ c ∈ "B".toList, isNameChar c) ∧ sh.store.get? "B".toList = some "x y".toList ∧
      IsPlain "B".toList ∧ size "B".toList ≤ 255) ∧
    o.result = .ok .goOn ∧ o.shell.store.get? "B".toList = some "x y".toList ∧
      ∀ other, other ≠ "B".toList → o.shell.store.get? other = sh.store.get? other := by
  intro files root lines sh o
  have hall : "B".toList.all isNameChar := by decide
  have hname : ∀ c ∈ "B".toList, isNameChar c := List.all_eq_true.mp hall
  have hplain : IsPlain "B".toList := isPlain_of_isNameChar (by decide) hname
  have hsize : size "B".toList ≤ 255 := by decide
  have hbound : sh.store.get? "B".toList = some "x y".toList := by
    rw [Shell.store_session]
    decide +kernel
  exact ⟨⟨hname, hbound, hplain, hsize⟩,
    copy_of_session files root [] lines hname hbound hplain hsize⟩

end LineShell
