import LineShell.Proofs.CommandLine.Flags

/-! # Arguments that are read in turn

Flags may be read from one list of arguments after another. A list that is rejected counts up to its
first argument that spells no flag, and flags that are set stay set. -/

namespace LineShell

namespace Flag

theorem ofName?_eq_some_iff {name : Text} {flag : Flag} :
    ofName? name = some flag ↔ flag.name = name := by
  constructor
  · intro h
    have hname := List.find?_some h
    exact beq_iff_eq.mp hname
  · rintro rfl
    cases flag <;> rfl

theorem namedIn_congr {args others : List Text} (h : ∀ arg, arg ∈ args ↔ arg ∈ others)
    (flag : Flag) : flag.NamedIn args ↔ flag.NamedIn others :=
  or_congr (h flag.short) (h flag.long)

/-- The arguments in front of the first one that spells no flag. -/
def spelledFront (args : List Text) : List Text := args.takeWhile spellings.contains

section
variable {args : List Text} {k : Nat}

/-- The first argument that spells no flag, with what stands in front of it and behind it. -/
theorem split_at_unspelled (h : args.findIdx? (· ∉ spellings) = some k) :
    ∃ arg, args[k]? = some arg ∧ arg ∉ spellings ∧
      (∀ earlier ∈ args.take k, earlier ∈ spellings) ∧
      args = args.take k ++ arg :: args.drop (k + 1) := by
  obtain ⟨hk, hbad, hfirst⟩ := List.findIdx?_eq_some_iff_getElem.mp h
  refine ⟨args[k], List.getElem?_eq_getElem hk, of_decide_eq_true hbad, ?_, ?_⟩
  · intro earlier hearlier
    obtain ⟨j, hj, rfl⟩ := List.mem_take_iff_getElem.mp hearlier
    have hspelled := hfirst j (by omega)
    simpa using hspelled
  · rw [List.getElem_cons_drop, List.take_append_drop]

theorem forall_spelled_iff :
    (∀ arg ∈ args, arg ∈ spellings) ↔ args.findIdx? (· ∉ spellings) = none := by
  simp [List.findIdx?_eq_none_iff]

end

end Flag

namespace Flags

/-- The flags after lists of arguments that are read in turn, whether they are rejected or not. -/
def parses (flags : Flags) (calls : List (List Text)) : Flags :=
  calls.foldl (fun flags args => (flags.parse args).1) flags

variable (flags : Flags)

theorem isSetName_iff {name : Text} :
    flags.isSetName name ↔ ∃ flag : Flag, flag.name = name ∧ flags.isSet flag := by
  simp [isSetName, Option.any_eq_true, Flag.ofName?_eq_some_iff]

/-- In which order flags are named, and how often, makes no difference. -/
theorem withNamed_congr {args others : List Text} (h : ∀ arg, arg ∈ args ↔ arg ∈ others) :
    flags.withNamed args = flags.withNamed others := by
  rw [withNamed, withNamed]
  congr 1
  funext flag
  rw [decide_eq_decide.mpr (Flag.namedIn_congr h flag)]

/-! ## One list -/

/-- Reading goes on behind arguments that are accepted, and nowhere else. -/
theorem parse_append (args more : List Text) :
    flags.parse (args ++ more) =
      match flags.parse args with
      | (after, .ok ()) => after.parse more
      | (after, .error e) => (after, .error e) := by
  -- for all flags, since each argument leaves other flags for those behind it
  induction args generalizing flags with
  | nil => rfl
  | cons arg args ih =>
      rw [List.cons_append, parse, parse]
      cases Flag.ofArgument? arg with
      | none => rfl
      | some flag => exact ih (flags.insert flag)

section
variable {args : List Text} {k : Nat}

theorem parse_of_findIdx? (h : args.findIdx? (· ∉ Flag.spellings) = some k) :
    ∃ arg, args[k]? = some arg ∧
      flags.parse (args.take k) = (flags.withNamed (args.take k), .ok ()) ∧
      flags.parse args = (flags.withNamed (args.take k), .error ⟨arg⟩) := by
  obtain ⟨arg, harg, hbad, hspelled, hsplit⟩ := Flag.split_at_unspelled h
  refine ⟨arg, harg, flags.parse_of_spelled hspelled, ?_⟩
  have hparse := flags.parse_of_unspelled hspelled hbad (args.drop (k + 1))
  rwa [← hsplit] at hparse

theorem parse_eq_ok_iff :
    (flags.parse args).2 = .ok () ↔ ∀ arg ∈ args, arg ∈ Flag.spellings := by
  cases hk : args.findIdx? (· ∉ Flag.spellings) with
  | none =>
      have hspelled := Flag.forall_spelled_iff.mpr hk
      rw [flags.parse_of_spelled hspelled]
      exact iff_of_true rfl hspelled
  | some k =>
      obtain ⟨arg, -, -, hparse⟩ := flags.parse_of_findIdx? hk
      rw [Flag.forall_spelled_iff, hk, hparse]
      exact iff_of_false nofun nofun

theorem parse_congr {others : List Text} (h : ∀ arg, arg ∈ args ↔ arg ∈ others)
    (hok : (flags.parse args).2 = .ok ()) : flags.parse others = flags.parse args := by
  have hspelled := flags.parse_eq_ok_iff.mp hok
  have hothers : ∀ arg ∈ others, arg ∈ Flag.spellings :=
    fun arg harg => hspelled arg ((h arg).mpr harg)
  rw [flags.parse_of_spelled hspelled, flags.parse_of_spelled hothers, flags.withNamed_congr h]

end

/-- Accepted or rejected, a list sets the flags that its front names and leaves all others alone. -/
theorem fst_parse (args : List Text) :
    (flags.parse args).1 = flags.withNamed (Flag.spelledFront args) := by
  induction args generalizing flags with
  | nil => exact flags.withNamed_nil.symm
  | cons arg args ih =>
      rw [parse, Flag.spelledFront]
      cases hflag : Flag.ofArgument? arg with
      | none =>
          have hbad : arg ∉ Flag.spellings := Flag.not_mem_spellings_iff.mpr hflag
          rw [List.takeWhile_cons_of_neg (by simpa using hbad), withNamed_nil]
      | some flag =>
          have hspelled : arg ∈ Flag.spellings := Flag.mem_spellings_iff.mpr ⟨flag, hflag⟩
          rw [List.takeWhile_cons_of_pos (by simpa using hspelled), withNamed_cons flags hflag]
          exact ih (flags.insert flag)

/-! ## Lists in turn -/

theorem isSet_parses_iff (calls : List (List Text)) {flag : Flag} :
    (flags.parses calls).isSet flag ↔
      flags.isSet flag ∨ ∃ args ∈ calls, flag.NamedIn (Flag.spelledFront args) := by
  induction calls generalizing flags with
  | nil => simp [parses]
  | cons args calls ih =>
      have hcalls : flags.parses (args :: calls) = (flags.parse args).1.parses calls := rfl
      rw [hcalls, ih, fst_parse, isSet_withNamed_iff, or_assoc]
      simp

/-- Arguments are accepted if and only if each of them spells a flag, and then the flags are set that were
set before and those that they name. Otherwise the first argument that spells none is the error, and the
flags are those that the arguments in front of it leave. So a list is read as its first part and then,
if that is accepted, the rest. In which order and how often the arguments of an accepted list are given
makes no difference. Lists that are read in turn never take a flag away, and set just those that are
named in front of their first argument that spells none. -/
theorem parse_spec (flags : Flags) (args : List Text) :
    ((flags.parse args).2 = .ok () ↔ ∀ arg ∈ args, arg ∈ Flag.spellings) ∧
    ((flags.parse args).2 = .ok () →
      ∀ flag, (flags.parse args).1.isSet flag ↔ flags.isSet flag ∨ flag.NamedIn args) ∧
    (∀ k, args.findIdx? (· ∉ Flag.spellings) = some k →
      ∃ arg after, args[k]? = some arg ∧ flags.parse (args.take k) = (after, .ok ()) ∧
        flags.parse args = (after, .error ⟨arg⟩) ∧
        FlagError.message ⟨arg⟩ = "flag error: unknown argument: ".toList ++ arg) ∧
    (∀ more, flags.parse (args ++ more) =
      match flags.parse args with
      | (after, .ok ()) => after.parse more
      | (after, .error e) => (after, .error e)) ∧
    (∀ others, (∀ arg, arg ∈ args ↔ arg ∈ others) →
      ((flags.parse others).2 = .ok () ↔ (flags.parse args).2 = .ok ()) ∧
      ((flags.parse args).2 = .ok () → flags.parse others = flags.parse args)) ∧
    (∀ calls flag, (flags.parses calls).isSet flag ↔
      flags.isSet flag ∨ ∃ call ∈ calls, flag.NamedIn (Flag.spelledFront call)) ∧
    ∀ name, flags.isSetName name ↔ ∃ flag : Flag, flag.name = name ∧ flags.isSet flag := by
  refine ⟨flags.parse_eq_ok_iff, ?named, ?rejected, flags.parse_append args, ?others,
    fun calls flag => flags.isSet_parses_iff calls, fun name => flags.isSetName_iff⟩
  case named =>
    intro hok flag
    rw [flags.parse_of_spelled (flags.parse_eq_ok_iff.mp hok)]
    exact flags.isSet_withNamed_iff
  case rejected =>
    intro k hk
    obtain ⟨arg, harg, hfront, hparse⟩ := flags.parse_of_findIdx? hk
    exact ⟨arg, _, harg, hfront, hparse, rfl⟩
  case others =>
    intro others h
    refine ⟨?_, flags.parse_congr h⟩
    rw [flags.parse_eq_ok_iff, flags.parse_eq_ok_iff]
    exact forall_congr' fun arg => imp_congr_left (h arg).symm

end Flags

end LineShell
