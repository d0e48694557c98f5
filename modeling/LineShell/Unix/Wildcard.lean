import LineShell.Unix.Pattern

/-! Patterns for the names of files that listings leave out. They differ from those of scripts in
what stands between brackets, and a dot in front of a name has to be written. -/

namespace LineShell.Unix

open Octets

namespace Wildcard

/-- What brackets say about a byte. -/
inductive Verdict
  /-- The pattern does not match, whatever comes. -/
  | wrong
  /-- There is no set; the bracket stands for itself. -/
  | plain
  /-- Whether the byte is in the set, and what follows it. -/
  | answer (found : Bool) (rest : Octets)
  deriving DecidableEq, Repr

/-- What stands in front of a dot and a closing bracket, and what follows them. -/
def symbol? : Octets → Option (Octets × Octets)
  | '.' :: ']' :: rest => some ([], rest)
  | c :: rest => (symbol? rest).map fun (inside, rest) => (c :: inside, rest)
  | [] => none

/-- The name of a class behind a bracket and a colon, and what follows. -/
def className? (text : Octets) : Option (Octets × Octets) :=
  let name := text.takeWhile fun c => 97 ≤ c.toNat && c.toNat < 122
  (after? ":]".toList (text.drop name.length)).map (name, ·)

/-- Skips what is left of a set of which a byte is known to be. -/
def skip : Nat → Octets → Verdict
  | 0, _ | _, [] | _, ['\\'] => .wrong
  | _, ']' :: rest => .answer true rest
  | fuel + 1, '\\' :: _ :: rest => skip fuel rest
  | fuel + 1, '[' :: ':' :: rest =>
    match className? rest with
    | some (_, rest) => skip fuel rest
    | none => skip fuel rest
  | fuel + 1, '[' :: '=' :: _ :: '=' :: ']' :: rest => skip fuel rest
  | _, '[' :: '=' :: _ => .wrong
  | fuel + 1, '[' :: '.' :: rest =>
    match symbol? rest with
    | some (_, rest) => skip fuel rest
    | none => .wrong
  | fuel + 1, _ :: rest => skip fuel rest

/-- The byte at the upper end of a range, and what follows it. -/
def upper? : Octets → Option (Char × Octets)
  | '[' :: '.' :: rest =>
    match symbol? rest with
    | some ([c], rest) => some (c, rest)
    | _ => none
  | '\\' :: c :: rest => some (c, rest)
  | ['\\'] | [] => none
  | c :: rest => some (c, rest)

/-- Looks a byte up in a set. The flag says whether nothing of the set was read yet; a closing
bracket is then part of it. -/
def lookUp (c : Char) : Nat → Bool → Octets → Verdict
  | 0, _, _ | _, _, [] => .plain
  | fuel + 1, first, d :: rest =>
    if d = ']' ∧ !first then .answer false rest
    else
      /- A byte of the set, with whatever may make it the lower end of a range. -/
      let element (low : Char) (isRange : Bool) (rest : Octets) : Verdict :=
        if !isRange && low == c then skip (rest.length + 1) rest
        else
          match rest with
          | '-' :: behind =>
            if behind.head? = some ']' then lookUp c fuel false rest
            else
              match upper? behind with
              | none => .wrong
              | some (high, behind) =>
                if low ≤ c ∧ c ≤ high then skip (behind.length + 1) behind
                else lookUp c fuel false behind
          | _ => lookUp c fuel false rest
      let byte (low : Char) (rest : Octets) : Verdict :=
        let isRange := match rest with
          | '-' :: e :: _ => e ≠ ']'
          | _ => false
        element low isRange rest
      match d, rest with
      | '\\', [] => .wrong
      | '\\', e :: rest => byte e rest
      | '[', ':' :: text =>
        match className? text with
        | none => byte '[' rest
        | some (name, rest) =>
          match Pattern.classes.find? fun (n, _) => n.toList = name with
          | none => .wrong
          | some (_, test) =>
            if test c then skip (rest.length + 1) rest else lookUp c fuel false rest
      | '[', '=' :: e :: '=' :: ']' :: behind =>
        if e = c then skip (behind.length + 1) behind else lookUp c fuel false behind
      | '[', '.' :: text =>
        match symbol? text with
        | some ([low], rest) =>
          let isRange := match rest with
            | '-' :: _ :: _ => true
            | _ => false
          element low isRange rest
        | _ => .wrong
      | _, _ => byte d rest

/-- Looks a byte up in the set behind an opening bracket. -/
def bracket (c : Char) (text : Octets) : Verdict :=
  match text with
  | '!' :: rest | '^' :: rest =>
    match lookUp c (rest.length + 1) true rest with
    | .answer found rest => .answer (!found) rest
    | verdict => verdict
  | _ => lookUp c (text.length + 1) true text

/-- Whether a text matches a pattern. The flag says whether a dot at its start is that of a hidden
file. -/
def matchFrom : Nat → Bool → Octets → Octets → Bool
  | 0, _, _, _ => false
  | _, _, [], text => text.isEmpty
  | fuel + 1, guarded, '*' :: ps, text =>
    !(guarded && text.head? == some '.') && (matchFrom fuel false ps text ||
      match text with
      | [] => false
      | _ :: rest => matchFrom fuel false ('*' :: ps) rest)
  | _, _, _ :: _, [] => false
  | fuel + 1, guarded, '?' :: ps, c :: rest =>
    !(guarded && c == '.') && matchFrom fuel false ps rest
  | fuel + 1, guarded, '[' :: ps, c :: rest =>
    !(guarded && c == '.') &&
      match bracket c ps with
      | .wrong => false
      | .plain => c == '[' && matchFrom fuel false ps rest
      | .answer found ps => found && matchFrom fuel false ps rest
  | _, _, ['\\'], _ => false
  | fuel + 1, _, '\\' :: p :: ps, c :: rest => p == c && matchFrom fuel false ps rest
  | fuel + 1, _, p :: ps, c :: rest => p == c && matchFrom fuel false ps rest

/-- Whether a name matches a pattern. -/
def isMatch (pattern name : Octets) (guarded : Bool := true) : Bool :=
  matchFrom (pattern.length + name.length + 1) guarded (Pattern.squeeze pattern) name

end Wildcard

end LineShell.Unix
