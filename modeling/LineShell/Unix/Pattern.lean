import LineShell.Unix.Octets

/-! File name patterns: `*` stands for any text, `?` for any byte, and brackets for one byte of a
set. A backslash makes the byte behind it stand for itself. -/

namespace LineShell.Unix

open Octets

namespace Pattern

/-- Classes of bytes by name. -/
def classes : List (String × (Char → Bool)) :=
  let upper (c : Char) : Bool := 65 ≤ c.toNat && c.toNat ≤ 90
  let lower (c : Char) : Bool := 97 ≤ c.toNat && c.toNat ≤ 122
  let graph (c : Char) : Bool := isPlain c && c != ' '
  let alnum (c : Char) : Bool := isLetter c || isDigit c
  [("alnum", alnum), ("alpha", isLetter), ("blank", fun c => c == ' ' || c == '\t'),
    ("cntrl", fun c => c.toNat < 32 || c.toNat == 127), ("digit", isDigit), ("graph", graph),
    ("lower", lower), ("print", isPlain), ("punct", fun c => graph c && !alnum c),
    ("space", isSpace), ("upper", upper), ("xdigit", fun c => (digit? 16 c).isSome)]

/-- A class behind an opening bracket, and what follows it. -/
def class? (text : Octets) : Option ((Char → Bool) × Octets) :=
  classes.findSome? fun (name, test) =>
    (after? (':' :: name.toList ++ ":]".toList) text).map (test, ·)

/-- The order of bytes, in which those from 128 on come first. -/
def rank (c : Char) : Nat := (c.toNat + 128) % 256

/-- Reads the inside of brackets: whether a byte is in the set, and what follows the closing
bracket. There is no set if none closes it. The first byte is never a closing bracket. -/
def set? (c : Char) : Nat → Bool → Bool → Octets → Option (Bool × Octets)
  | 0, _, _, _ | _, _, _, [] => none
  | fuel + 1, first, found, d :: rest =>
    if d = ']' ∧ !first then some (found, rest)
    else
      match (if d = '[' then class? rest else none) with
      | some (test, rest) => set? c fuel false (found || test c) rest
      | none =>
        let (d, rest) := match d, rest with
          | '\\', e :: rest => (e, rest)
          | _, _ => (d, rest)
        match rest with
        | '-' :: e :: behind =>
          if e = ']' then set? c fuel false (found || c == d) rest
          else
            let (e, behind) := match e, behind with
              | '\\', f :: behind => (f, behind)
              | _, _ => (e, behind)
            set? c fuel false (found || rank d ≤ rank c && rank c ≤ rank e) behind
        | _ => set? c fuel false (found || c == d) rest

/-- Reads a set behind an opening bracket. -/
def bracket? (c : Char) (text : Octets) : Option (Bool × Octets) :=
  match text with
  | '!' :: rest =>
    (set? c (rest.length + 1) true false rest).map fun (found, rest) => (!found, rest)
  | _ => set? c (text.length + 1) true false text

/-- Whether a text matches a pattern. -/
def matchWith : Nat → Octets → Octets → Bool
  | 0, _, _ => false
  | _, [], text => text.isEmpty
  | fuel + 1, '*' :: ps, text =>
    matchWith fuel ps text ||
      match text with
      | [] => false
      | _ :: rest => matchWith fuel ('*' :: ps) rest
  | _, '?' :: _, [] | _, '[' :: _, [] => false
  | fuel + 1, '?' :: ps, _ :: rest => matchWith fuel ps rest
  | fuel + 1, '[' :: ps, c :: rest =>
    match bracket? c ps with
    | some (found, ps) => found && matchWith fuel ps rest
    | none => c == '[' && matchWith fuel ps rest
  | fuel + 1, '\\' :: p :: ps, text =>
    match text with
    | c :: rest => c == p && matchWith fuel ps rest
    | [] => false
  | fuel + 1, p :: ps, text =>
    match text with
    | c :: rest => c == p && matchWith fuel ps rest
    | [] => false

/-- A pattern with runs of asterisks made one. -/
def squeeze : Octets → Octets
  | '\\' :: c :: rest => '\\' :: c :: squeeze rest
  | '*' :: '*' :: rest => squeeze ('*' :: rest)
  | c :: rest => c :: squeeze rest
  | [] => []

/-- Whether a text matches a pattern. -/
def isMatch (pattern text : Octets) : Bool :=
  matchWith (pattern.length + text.length + 1) (squeeze pattern) text

/-- Whether a byte between brackets closes them before a slash. -/
def closes : Octets → Bool
  | [] | '/' :: _ => false
  | ['\\'] => false
  | '\\' :: '/' :: _ => false
  | '\\' :: _ :: ']' :: _ => true
  | '\\' :: _ :: rest => closes rest
  | _ :: ']' :: _ => true
  | _ :: rest => closes rest

end Pattern

end LineShell.Unix
