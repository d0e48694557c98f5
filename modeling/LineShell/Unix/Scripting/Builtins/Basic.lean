import LineShell.Unix.Scripting.State

/-! What builtins have in common: options in front of their arguments, and words in quotes. -/

namespace LineShell.Unix.Scripting

/-- A builtin: what it does with its arguments, and the status that it ends with. -/
abbrev Builtin := List Octets → Run Nat

/-- Options that were read: their letters, and the texts that some of them take. -/
abbrev Options := List (Char × Octets)

namespace Builtin

/-- Reads one argument of option letters. -/
def optionsIn (letters : List (Char × Bool)) (found : Options) :
    Octets → List Octets → Run (Options × List Octets)
  | [], args => return (found, args)
  | c :: cs, args =>
    match letters.lookup c with
    | none => Run.fail ("Illegal option -".toList ++ [c])
    | some false => optionsIn letters (found ++ [(c, [])]) cs args
    | some true =>
      match cs, args with
      | _ :: _, _ => return (found ++ [(c, cs)], args)
      | [], arg :: args => return (found ++ [(c, arg)], args)
      | [], [] => Run.fail ("No arg for -".toList ++ c :: " option".toList)

/-- Takes options off the arguments, with what they take. -/
def options (letters : List (Char × Bool)) (found : Options := []) :
    List Octets → Run (Options × List Octets)
  | [] => return (found, [])
  | arg :: args =>
    match arg with
    | ['-', '-'] => return (found, args)
    | '-' :: c :: cs => do
      let (found, rest) ← optionsIn letters found (c :: cs) args
      if _h : rest.length ≤ args.length then options letters found rest else return (found, [])
    | _ => return (found, arg :: args)
termination_by args => args.length

/-- The arguments behind `--`; there are no options. -/
def operands (args : List Octets) : Run (List Octets) := return (← options [] [] args).2

/-- A text in quotes. Runs of single quotes stand between double quotes. -/
def quote (text : Octets) : Octets :=
  let quoted (parts : Octets) : Octets := '\'' :: parts ++ ['\'']
  let rec go (now quotes : Octets) : Octets → Octets
    | [] => if quotes = [] then quoted now.reverse else '"' :: quotes ++ ['"']
    | c :: rest =>
      if c = '\'' then
        if quotes = [] then quoted now.reverse ++ go [] [c] rest else go [] (c :: quotes) rest
      else if quotes = [] then go (c :: now) [] rest
      else '"' :: quotes ++ '"' :: go [c] [] rest
  go [] [] text

end Builtin

end LineShell.Unix.Scripting
