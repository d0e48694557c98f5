import LineShell.Unix.Octets

/-! Options among the arguments of a program. Letters can be joined behind one hyphen; long names
stand behind two and may be shortened as long as they stay unambiguous. Operands may stand between
options, and a double hyphen ends the options. -/

namespace LineShell.Unix

/-- Whether an option takes an argument. -/
inductive Arity
  | none
  | required
  | optional
  deriving DecidableEq, Repr

/-- An option that a program knows, with its letters and long names. The name of the first of them
says which option it is. -/
structure Switch where
  letters : List Char
  names : List String
  arity : Arity := .none
  deriving DecidableEq, Repr

/-- The name of an option. -/
def Switch.key (s : Switch) : String :=
  match s.letters with
  | c :: _ => String.ofList [c]
  | [] => s.names.headD ""

/-- An option that was given. -/
structure Choice where
  key : String
  argument : Octets
  /-- Whether there is an argument. -/
  hasArgument : Bool
  deriving DecidableEq, Repr

/-- What arguments say. If one of them is wrong, those behind it are not looked at. -/
structure Options where
  choices : List Choice := []
  operands : List Octets := []
  problem : Option Octets := none
  deriving DecidableEq, Repr

namespace Options

/-- Puts an option in front. -/
def choose (key : String) (argument : Option Octets) (o : Options) : Options :=
  { o with choices := ⟨key, argument.getD [], argument.isSome⟩ :: o.choices }

/-- Arguments of which one is wrong. -/
def wrong (text : Octets) : Options := { problem := some text }

/-- The long names that a shortened name may stand for. -/
def candidates (switches : List Switch) (name : Octets) : List (String × Switch) :=
  let all := switches.flatMap fun s => s.names.map (·, s)
  match all.find? fun (n, _) => n.toList = name with
  | some found => [found]
  | none => all.filter fun (n, _) => (Octets.after? name n.toList).isSome

/-- The name and the argument of a long option. -/
def split (text : Octets) : Octets × Option Octets :=
  let name := text.takeWhile (· ≠ '=')
  (name, if '=' ∈ text then some (text.drop (name.length + 1)) else none)

/-- Reads the letters behind a hyphen, and says whether the argument of the last one is missing. -/
def letters (switches : List Switch) : Octets → Options × Option Switch
  | [] => ({}, none)
  | c :: cs =>
    match switches.find? (·.letters.contains c) with
    | none => (wrong ("invalid option -- '".toList ++ [c, '\'']), none)
    | some s =>
      match s.arity with
      | .none =>
        let (o, open?) := letters switches cs
        (o.choose s.key none, open?)
      | .optional => (choose s.key (if cs = [] then none else some cs) {}, none)
      | .required => if cs = [] then ({}, some s) else (choose s.key (some cs) {}, none)

/-- Whether something counts before something else does. -/
def andThen (first rest : Options) : Options :=
  match first.problem with
  | some _ => first
  | none => { rest with choices := first.choices ++ rest.choices }

/-- Reads arguments. If `ordered` is set, the first operand ends the options. -/
def read (switches : List Switch) (ordered : Bool := false) : List Octets → Options
  | [] => {}
  | ['-', '-'] :: rest => { operands := rest }
  | ('-' :: '-' :: text) :: rest =>
    let (name, argument) := split text
    match candidates switches name with
    | [] => wrong ("unrecognized option '--".toList ++ text ++ ['\''])
    | (full, s) :: others =>
      if others.any fun (_, t) => t.key ≠ s.key then
        wrong ("option '--".toList ++ text ++ "' is ambiguous; possibilities:".toList ++
          ((full, s) :: others).flatMap fun (n, _) => " '--".toList ++ n.toList ++ ['\''])
      else
        match s.arity, argument, rest with
        | .none, some _, _ =>
          wrong ("option '--".toList ++ full.toList ++ "' doesn't allow an argument".toList)
        | .required, none, [] =>
          wrong ("option '--".toList ++ full.toList ++ "' requires an argument".toList)
        | .required, none, value :: rest => (read switches ordered rest).choose s.key (some value)
        | _, argument, rest => (read switches ordered rest).choose s.key argument
  | ('-' :: c :: cs) :: rest =>
    let (first, open?) := letters switches (c :: cs)
    match open?, rest with
    | none, rest => first.andThen (read switches ordered rest)
    | some s, value :: rest =>
      (first.andThen ((read switches ordered rest).choose s.key (some value)))
    | some _, [] =>
      first.andThen
        (wrong ("option requires an argument -- '".toList ++ [(c :: cs).getLastD c, '\'']))
  | operand :: rest =>
    if ordered then { operands := operand :: rest }
    else
      let o := read switches ordered rest
      { o with operands := operand :: o.operands }

end Options

end LineShell.Unix
