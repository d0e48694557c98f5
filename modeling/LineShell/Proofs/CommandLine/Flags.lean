import LineShell.Flags

/-! # Flags that arguments name

Arguments set the flags that they spell, in whatever order they stand. The first argument that spells
no flag stops the reading, and what is behind it counts for nothing. -/

namespace LineShell

namespace Flag

/-- The arguments that spell a flag. -/
def spellings : List Text := [
  "-d".toList, "--debug".toList, "-h".toList, "--help".toList, "-q".toList, "--quiet".toList,
  "-v".toList, "--version".toList]

/-- A flag is named by arguments if its short or its long spelling is among them. -/
def NamedIn (flag : Flag) (args : List Text) : Prop := flag.short ∈ args ∨ flag.long ∈ args

instance (flag : Flag) (args : List Text) : Decidable (flag.NamedIn args) :=
  inferInstanceAs (Decidable (_ ∨ _))

theorem ofArgument?_short (flag : Flag) : ofArgument? flag.short = some flag := by
  cases flag <;> rfl

theorem ofArgument?_long (flag : Flag) : ofArgument? flag.long = some flag := by
  cases flag <;> rfl

/-- No argument spells two flags. -/
theorem ofArgument?_eq_some_iff {arg : Text} {flag : Flag} :
    ofArgument? arg = some flag ↔ arg = flag.short ∨ arg = flag.long := by
  constructor
  · intro h
    have hspelled := List.find?_some h
    rw [Bool.or_eq_true, beq_iff_eq, beq_iff_eq] at hspelled
    exact hspelled.imp Eq.symm Eq.symm
  · rintro (rfl | rfl)
    · exact flag.ofArgument?_short
    · exact flag.ofArgument?_long

theorem mem_all (flag : Flag) : flag ∈ all := by
  cases flag <;> decide

theorem spellings_eq : spellings = all.flatMap fun flag => [flag.short, flag.long] := rfl

theorem mem_spellings_iff {arg : Text} :
    arg ∈ spellings ↔ ∃ flag, ofArgument? arg = some flag := by
  simp [spellings_eq, List.mem_flatMap, mem_all, ofArgument?_eq_some_iff]

theorem not_mem_spellings_iff {arg : Text} : arg ∉ spellings ↔ ofArgument? arg = none := by
  rw [mem_spellings_iff, Option.eq_none_iff_forall_ne_some, not_exists]

theorem namedIn_cons_iff {flag : Flag} {arg : Text} {args : List Text} :
    flag.NamedIn (arg :: args) ↔ ofArgument? arg = some flag ∨ flag.NamedIn args := by
  rw [ofArgument?_eq_some_iff, NamedIn, NamedIn, List.mem_cons, List.mem_cons, eq_comm (a := arg),
    eq_comm (a := arg)]
  exact or_or_or_comm

end Flag

namespace Flags

variable (flags : Flags)

/-- Sets the flags that arguments name, wherever they stand. -/
def withNamed (args : List Text) : Flags :=
  ⟨fun flag => flags.isSet flag || decide (flag.NamedIn args)⟩

theorem isSet_withNamed_iff {args : List Text} {flag : Flag} :
    (flags.withNamed args).isSet flag ↔ flags.isSet flag ∨ flag.NamedIn args := by
  rw [withNamed, Bool.or_eq_true, decide_eq_true_iff]

theorem withNamed_nil : flags.withNamed [] = flags := by
  simp [withNamed, Flag.NamedIn]

theorem withNamed_cons {arg : Text} {flag : Flag} (h : Flag.ofArgument? arg = some flag)
    (args : List Text) : flags.withNamed (arg :: args) = (flags.insert flag).withNamed args := by
  rw [withNamed, withNamed, insert]
  congr 1
  funext other
  by_cases hother : other = flag
  · simp [Flag.namedIn_cons_iff, h, hother]
  · simp [Flag.namedIn_cons_iff, h, Ne.symm hother, beq_false_of_ne hother]

/-- Spellings are all read, and an argument behind them that is none is the error. -/
theorem parse_spelled_append {args : List Text} (h : ∀ arg ∈ args, arg ∈ Flag.spellings)
    (more : List Text) : flags.parse (args ++ more) = (flags.withNamed args).parse more := by
  induction args generalizing flags with
  | nil => rw [withNamed_nil, List.nil_append]
  | cons arg args ih =>
      obtain ⟨harg, hargs⟩ := List.forall_mem_cons.mp h
      obtain ⟨flag, hflag⟩ := Flag.mem_spellings_iff.mp harg
      rw [List.cons_append, parse, hflag, withNamed_cons flags hflag]
      exact ih (flags.insert flag) hargs

theorem parse_of_spelled {args : List Text} (h : ∀ arg ∈ args, arg ∈ Flag.spellings) :
    flags.parse args = (flags.withNamed args, .ok ()) := by
  have hparse := flags.parse_spelled_append h []
  rwa [List.append_nil] at hparse

theorem parse_of_unspelled {args : List Text} (h : ∀ arg ∈ args, arg ∈ Flag.spellings) {arg : Text}
    (harg : arg ∉ Flag.spellings) (more : List Text) :
    flags.parse (args ++ arg :: more) = (flags.withNamed args, .error ⟨arg⟩) := by
  rw [parse_spelled_append flags h, parse, Flag.not_mem_spellings_iff.mp harg]

end Flags

end LineShell
