import LineShell.Unix.Scripting.State

/-! Arithmetic on integers of 64 bits. An expression is read one token ahead, and values are worked
out while it is being read; in parts that do not count, nothing is assigned and nothing can go
wrong but the form. -/

namespace LineShell.Unix.Scripting

open Octets

/-- A token of an expression. -/
inductive Sign
  | number (n : Int)
  | name (n : Octets)
  /-- An operator, or a parenthesis. -/
  | op (text : String)
  | unknown
  | finish
  deriving DecidableEq, Repr

namespace Sign

/-- The operators, the longer ones first. -/
def operators : List String := [
  "<<=", ">>=", "<<", ">>", "<=", ">=", "==", "!=", "||", "&&", "|=", "&=", "^=", "*=", "/=", "%=",
  "+=", "-=", "<", ">", "=", "!", "|", "&", "^", "*", "/", "%", "+", "-", "~", "(", ")", "?", ":"]

/-- The binary operators, with how loosely they bind. -/
def binary : List (String × Nat) := [
  ("*", 0), ("/", 0), ("%", 0), ("+", 1), ("-", 1), ("<<", 2), (">>", 2), ("<", 3), ("<=", 3),
  (">", 3), (">=", 3), ("==", 4), ("!=", 4), ("&", 5), ("^", 6), ("|", 7)]

/-- Looser than any binary operator. -/
def loosest : Nat := 8

/-- A binary operator and how loosely it binds. -/
def binary? : Sign → Option (String × Nat)
  | op text => (binary.lookup text).map (text, ·)
  | _ => none

/-- The operators that assign, each with the one that it applies before, if any. -/
def assigning : List (String × Option String) :=
  ("=", none) ::
    ["*", "/", "%", "+", "-", "<<", ">>", "&", "^", "|"].map fun text => (text ++ "=", some text)

/-- The first token of an expression, and what follows it. -/
def first (text : Octets) : Sign × Octets :=
  let text := text.dropWhile fun c => c == ' ' || c == '\t' || c == '\n'
  match text with
  | [] => (finish, [])
  | c :: rest =>
    if isDigit c then
      match Numeral.read? text with
      | some n => (number (Numeral.clampSigned n.value).1, n.rest)
      | none => (unknown, rest)
    else if isNameStart c then
      let (n, rest) := nameIn text
      (name n, rest)
    else
      match operators.findSome? fun o => (after? o.toList text).map (o, ·) with
      | some (o, rest) => (op o, rest)
      | none => (unknown, text)

end Sign

/-- An expression while it is being worked out: all of it, what is left of it, and the token that
was read last. -/
structure Calculation where
  all : Octets
  rest : Octets
  sign : Sign := .finish

/-- Working out an expression. -/
abbrev Calculating := StateT Calculation Run

namespace Calculating

/-- Stops at something that cannot stand there. -/
def fail {α : Type} (text : String) : Calculating α := do
  Run.fail (α := α) ("arithmetic expression: ".toList ++ text.toList ++ ": \"".toList ++
    (← get).all ++ ['"'])

/-- Reads a token. -/
def lex : Calculating Sign := do
  let c ← get
  let (sign, rest) := Sign.first c.rest
  set { c with rest }
  return sign

/-- Makes a token the last one. -/
def last (sign : Sign) : Calculating Unit := modify ({ · with sign })

/-- The value of a variable as an integer. -/
def lookup (name : Octets) : Calculating Int := do
  Run.integer ((← Run.value? name).getD []) false

def truth (b : Bool) : Int := if b then 1 else 0

/-- Applies a binary operator. -/
def apply (op : String) (a b : Int) : Calculating Int := do
  let shift := (b % 64).toNat
  match op with
  | "*" => return Numeral.wrap (a * b)
  | "/" | "%" =>
    if b = 0 then fail "division by zero"
    else if b = -1 ∧ a = -Numeral.maxSigned - 1 then throw (.killed 8)
    else return if op = "/" then a.tdiv b else a.tmod b
  | "+" => return Numeral.wrap (a + b)
  | "-" => return Numeral.wrap (a - b)
  | "<<" => return Numeral.wrap (a * (1 <<< shift : Nat))
  | ">>" => return a.fdiv (1 <<< shift : Nat)
  | "<" => return truth (a < b)
  | "<=" => return truth (a ≤ b)
  | ">" => return truth (b < a)
  | ">=" => return truth (b ≤ a)
  | "==" => return truth (a == b)
  | "!=" => return truth (a != b)
  | "&" => return Numeral.wrap (Numeral.wrapUnsigned a &&& Numeral.wrapUnsigned b : Nat)
  | "^" => return Numeral.wrap (Numeral.wrapUnsigned a ^^^ Numeral.wrapUnsigned b : Nat)
  | _ => return Numeral.wrap (Numeral.wrapUnsigned a ||| Numeral.wrapUnsigned b : Nat)

mutual

/-- An assignment, or anything else. -/
def assignment : Nat → Bool → Sign → Calculating Int
  | 0, _, _ => fail "too deep"
  | fuel + 1, counts, token => do
    let op ← lex
    match token, op with
    | .name n, .op text =>
      match Sign.assigning.lookup text with
      | some before =>
        let right ← assignment fuel counts (← lex)
        if !counts then return right
        let value ← match before with
          | none => pure right
          | some operator => do apply operator (← lookup n) right
        Run.assign n (some (ofInt value))
        return value
      | none => choice fuel counts token op
    | _, _ => choice fuel counts token op

/-- A choice between two expressions, or anything that binds more tightly. -/
def choice : Nat → Bool → Sign → Sign → Calculating Int
  | 0, _, _, _ => fail "too deep"
  | fuel + 1, counts, token, op => do
    let a ← either fuel counts token op
    if (← get).sign ≠ .op "?" then return a
    let b ← assignment fuel (counts && a != 0) (← lex)
    if (← get).sign ≠ .op ":" then fail (α := Unit) "expecting ':'"
    let token ← lex
    let c ← choice fuel (counts && a == 0) token (← lex)
    return if a ≠ 0 then b else c

/-- Expressions joined by `||`. -/
def either : Nat → Bool → Sign → Sign → Calculating Int
  | 0, _, _, _ => fail "too deep"
  | fuel + 1, counts, token, op => do
    let a ← both fuel counts token op
    if (← get).sign ≠ .op "||" then return a
    let token ← lex
    let b ← either fuel (counts && a == 0) token (← lex)
    return truth (a != 0 || b != 0)

/-- Expressions joined by `&&`. -/
def both : Nat → Bool → Sign → Sign → Calculating Int
  | 0, _, _, _ => fail "too deep"
  | fuel + 1, counts, token, op => do
    let a ← primary fuel counts token op
    let a ← match (← get).sign.binary? with
      | some (o, p) => joined fuel counts a o p Sign.loosest
      | none => pure a
    if (← get).sign ≠ .op "&&" then return a
    let token ← lex
    let b ← both fuel (counts && a != 0) token (← lex)
    return truth (a != 0 && b != 0)

/-- What follows a binary operator, up to one that binds as loosely as some limit. -/
def joined : Nat → Bool → Int → String → Nat → Nat → Calculating Int
  | 0, _, _, _, _, _ => fail "too deep"
  | fuel + 1, counts, a, o, p, limit => do
    let token ← lex
    let b ← primary fuel counts token (← lex)
    let b ← match (← get).sign.binary? with
      | some (o', p') => if p' < p then joined fuel counts b o' p' p else pure b
      | none => pure b
    let a ← if counts then apply o a b else pure b
    match (← get).sign.binary? with
    | some (o', p') => if p' ≥ limit then return a else joined fuel counts a o' p' limit
    | none => return a

/-- A number, a variable, an expression between parentheses, or one of these behind a sign. -/
def primary : Nat → Bool → Sign → Sign → Calculating Int
  | 0, _, _, _ => fail "too deep"
  | fuel + 1, counts, token, op => do
    match token with
    | .op "(" =>
      let a ← assignment fuel counts op
      if (← get).sign ≠ .op ")" then fail (α := Unit) "expecting ')'"
      last (← lex)
      return a
    | .number n =>
      last op
      return n
    | .name n =>
      last op
      if counts then lookup n else return 0
    | .op "+" => primary fuel counts op (← lex)
    | .op "-" => return Numeral.wrap (-(← primary fuel counts op (← lex)))
    | .op "!" => return truth ((← primary fuel counts op (← lex)) == 0)
    | .op "~" => return -(← primary fuel counts op (← lex)) - 1
    | _ => fail "expecting primary"

end

/-- The value of an expression. -/
def value : Calculating Int := do
  let fuel := 20 * (← get).all.length + 20
  let a ← assignment fuel true (← lex)
  if (← get).sign ≠ .finish then fail (α := Unit) "expecting EOF"
  return a

end Calculating

/-- The value of an arithmetic expression. -/
def Run.calculate (text : Octets) : Run Int := do
  let (value, _) ← Calculating.value.run { all := text, rest := text }
  return value

end LineShell.Unix.Scripting
