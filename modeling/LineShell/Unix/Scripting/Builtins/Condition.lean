import LineShell.Unix.Tools.Condition
import LineShell.Unix.Scripting.Builtins.Basic

/-! The builtin that checks conditions. Words are looked at from left to right, and whether a word
is an operator depends on the words behind it. -/

namespace LineShell.Unix.Scripting

/-- A word of a condition. -/
inductive TestWord
  | unary (op : String)
  | binary (op : String)
  | negation
  | conjunction
  | disjunction
  | opening
  | closing
  | operand
  | finish
  deriving DecidableEq, Repr

namespace TestWord

/-- The operators on one argument. -/
def unaries : List String := [
  "-r", "-w", "-x", "-e", "-f", "-d", "-c", "-b", "-p", "-u", "-g", "-k", "-s", "-t", "-z", "-n",
  "-h", "-O", "-G", "-L", "-S"]

/-- The operators on two arguments. -/
def binaries : List String := [
  "=", "!=", "<", ">", "-eq", "-ne", "-ge", "-gt", "-le", "-lt", "-nt", "-ot", "-ef"]

/-- The operator that a word is by itself. -/
def operator? (word : Octets) : Option TestWord :=
  let text := String.ofList word
  if unaries.contains text then some (.unary text)
  else if binaries.contains text then some (.binary text)
  else [("!", negation), ("-a", conjunction), ("-o", disjunction), ("(", opening),
    (")", closing)].lookup text

/-- Whether a word that could be an operator on one argument is none. -/
def isOperand : List Octets → Bool
  | [] => true
  | [_] => false
  | word :: _ :: _ =>
    match operator? word with
    | some (.binary _) => true
    | _ => false

/-- What the first of some words is. -/
def first : List Octets → TestWord
  | [] => finish
  | word :: rest =>
    match operator? word with
    | some (.unary op) => if isOperand rest then operand else .unary op
    | some .opening => if rest = [] then operand else opening
    | some t => t
    | none => operand

end TestWord

namespace Test

/-- Checks work on the words from the current one on. -/
abbrev Testing := StateT (List Octets) Run

/-- Stops at a word. -/
def stop {α : Type} (word : Octets) (message : String) : Testing α :=
  Run.fail (α := α) ((if word = [] then [] else word ++ ": ".toList) ++ message.toList)

/-- Goes on by so many words. -/
def advance (n : Nat) : Testing TestWord := do
  modify (·.drop n)
  return TestWord.first (← get)

/-- What the next word is. -/
def peek : Testing TestWord := return TestWord.first ((← get).drop 1)

/-- The current word. -/
def current? : Testing (Option Octets) := return (← get).head?

/-- Applies an operator on one argument. -/
def applyUnary (op : String) (arg : Octets) : Testing Bool := do
  match op with
  | "-z" => return arg.isEmpty
  | "-n" => return !arg.isEmpty
  | "-t" =>
    let _ ← Run.integer arg
    return false
  | "-h" | "-L" => Run.ask (·.isLink arg)
  | _ =>
    match FileTest.letters.lookup ((op.toList.drop 1).headD 'e') with
    | some t => Run.ask (·.holds t arg)
    | none => return false

/-- Applies an operator on two arguments. -/
def applyBinary (op : String) (a b : Octets) : Testing Bool := do
  match op with
  | "=" => return a == b
  | "!=" => return a != b
  | "<" => return a != b && Octets.le a b
  | ">" => return a != b && Octets.le b a
  | "-nt" => Run.ask (isNewer a b)
  | "-ot" => Run.ask (isNewer b a)
  | "-ef" => Run.ask (·.isSame a b)
  | _ =>
    let x ← Run.integer a
    let y ← Run.integer b
    return match Condition.comparison? op.toList with
      | some compare => compare x y
      | none => false
where
  /-- Whether both files exist and the first is the newer one. -/
  isNewer (a b : Octets) (p : Process) : StateM Machine Bool := do
    match ← p.stat a, ← p.stat b with
    | .ok f, .ok g => return f.modified > g.modified
    | _, _ => return false

/-- A condition without an operator that joins others, given its first word. -/
def primary (joined : TestWord → Testing Bool) (t : TestWord) : Testing Bool := do
  match t with
  | .finish => return false
  | .opening =>
    let t ← advance 1
    if t = .closing then return false
    let answer ← joined t
    if (← advance 1) ≠ .closing then stop (α := Unit) [] "closing paren expected"
    return answer
  | .unary op =>
    discard <| advance 1
    match ← current? with
    | none => stop op.toList "argument expected"
    | some arg => applyUnary op arg
  | _ =>
    match ← peek, ← current? with
    | .binary op, some a =>
      discard <| advance 2
      match ← current? with
      | none => stop op.toList "argument expected"
      | some b => applyBinary op a b
    | _, some word => return !word.isEmpty
    | _, none => return false

/-- A condition with any number of signs for its opposite in front of it. -/
def negated (joined : TestWord → Testing Bool) : Nat → TestWord → Testing Bool
  | 0, t => primary joined t
  | fuel + 1, t => do
    if t ≠ .negation then primary joined t
    else
      let t := TestWord.first ((← get).drop 1)
      if t ≠ .finish then modify (·.drop 1)
      return !(← negated joined fuel t)

/-- Conditions with one sign between them. -/
def sequence (sign : TestWord) (join : Bool → Bool → Bool) (part : TestWord → Testing Bool) :
    Nat → Bool → TestWord → Testing Bool
  | 0, answer, _ => return answer
  | fuel + 1, answer, t => do
    let answer := join answer (← part t)
    if (← peek) ≠ sign then return answer
    sequence sign join part fuel answer (← advance 2)

/-- Conditions with signs between them. -/
def alternatives : Nat → TestWord → Testing Bool
  | 0, _ => return false
  | fuel + 1, t =>
    sequence .disjunction or
      (sequence .conjunction and (negated (alternatives fuel) fuel) fuel true) fuel false t

/-- The status for words that are read as a condition. -/
def status (opposite : Bool) : Nat → List Octets → Run Nat
  | 0, _ => return 2
  | fuel + 1, args => do
    let evaluate (args : List Octets) (t : TestWord) : Run Nat := do
      let (answer, rest) ← (alternatives (args.length + 2) t).run args
      match rest with
      | word :: _ :: _ => Run.fail (word ++ ": unexpected operator".toList)
      | _ => return if answer = opposite then 1 else 0
    match args with
    | [] => return if opposite then 0 else 1
    | [_, op, _] =>
      match TestWord.operator? op with
      | some (.binary _) => evaluate args .operand
      | _ => bracketed fuel args evaluate
    | [_, _, _, _] => bracketed fuel args evaluate
    | _ => evaluate args (TestWord.first args)
where
  /-- Three or four words, which may stand in parentheses or behind a sign. -/
  bracketed (fuel : Nat) (args : List Octets)
      (evaluate : List Octets → TestWord → Run Nat) : Run Nat :=
    if args.head? = some ['('] ∧ args.getLast? = some [')'] then
      let args := args.tail.dropLast
      evaluate args (TestWord.first args)
    else if args.head? = some ['!'] then status (!opposite) fuel args.tail
    else evaluate args (TestWord.first args)

end Test

namespace Builtin

/-- Succeeds if a condition holds. -/
def test : Builtin := fun args => Test.status false (args.length + 1) args

/-- The other form of `test`, which ends with a bracket. -/
def bracket : Builtin := fun args => do
  if args.getLast? = some [']'] then test args.dropLast else Run.fail "missing ]".toList

end Builtin

end LineShell.Unix.Scripting
