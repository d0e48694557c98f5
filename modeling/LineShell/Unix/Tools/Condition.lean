import LineShell.Unix.Tool

/-! Conditions on files, texts and numbers. With up to four arguments their number says how they are
read; longer conditions are joined by `-a`, which binds more tightly, and `-o`. -/

namespace LineShell.Unix

open Octets

/-- A property of a file. -/
inductive FileTest
  | any
  | ofKind (k : Kind)
  | nonempty
  /-- Some bit of the mode is set. -/
  | hasBit (bit : Nat)
  | unread
  | unsupported
  deriving DecidableEq

namespace FileTest

/-- The tests that follow links, by letter. -/
def letters : List (Char × FileTest) := [('e', .any), ('r', .hasBit 0o400),
  ('w', .hasBit 0o200), ('x', .hasBit 0o100), ('O', .any), ('G', .any), ('f', .ofKind .regular),
  ('d', .ofKind .directory), ('c', .ofKind .character), ('p', .ofKind .pipe), ('s', .nonempty),
  ('u', .hasBit 0o4000), ('g', .hasBit 0o2000), ('k', .hasBit 0o1000), ('N', .unread),
  ('b', .unsupported), ('S', .unsupported)]

/-- Whether a file passes. -/
def holds (t : FileTest) (f : Facts) : Bool :=
  match t with
  | .any => true
  | .ofKind k => f.kind == k
  | .nonempty => f.size > 0
  | .hasBit bit => f.mode &&& bit != 0
  | .unread => f.modified > f.accessed
  | .unsupported => false

end FileTest

namespace Process

/-- Whether a path names a file that passes a test. -/
def holds (p : Process) (t : FileTest) (path : Octets) : StateM Machine Bool := do
  match ← p.stat path with
  | .ok facts => return t.holds facts
  | .error _ => return false

/-- Whether a path names a symbolic link. -/
def isLink (p : Process) (path : Octets) : StateM Machine Bool := do
  match ← p.stat path false with
  | .ok facts => return facts.kind == .link
  | .error _ => return false

/-- Whether the first file is newer than the second; one that does not exist is older than any. -/
def isNewer (p : Process) (path other : Octets) : StateM Machine Bool := do
  match ← p.stat path, ← p.stat other with
  | .ok a, .ok b => return a.modified > b.modified
  | .ok _, .error _ => return true
  | _, _ => return false

/-- Whether two paths name one file. -/
def isSame (p : Process) (path other : Octets) : StateM Machine Bool := do
  match ← p.stat path, ← p.stat other with
  | .ok a, .ok b => return a.identity == b.identity
  | _, _ => return false

end Process

namespace Condition

/-- A check takes arguments off those that are left. -/
abbrev Check := StateT (List Octets) Tool

/-- A comparison of numbers by its name. -/
def comparison? (op : Octets) : Option (Int → Int → Bool) :=
  [("-eq", fun a b => decide (a = b)), ("-ne", fun a b => decide (a ≠ b)),
    ("-lt", fun a b => decide (a < b)), ("-le", fun a b => decide (a ≤ b)),
    ("-gt", fun a b => decide (b < a)), ("-ge", fun a b => decide (b ≤ a))].findSome?
      fun ((name, f) : String × (Int → Int → Bool)) => if name.toList = op then some f else none

/-- Whether an argument is an operator between two operands. -/
def isBinary (op : Octets) : Bool :=
  (comparison? op).isSome ||
    ["=", "==", "!=", "-nt", "-ot", "-ef"].any fun name => name.toList == op

/-- Whether an argument is a hyphen with one letter. -/
def isUnary (op : Octets) : Bool := op.length == 2 && op.head? == some '-'

/-- A number with blanks around it. -/
def integer? (o : Octets) : Option Int :=
  let body := o.dropWhile isSpace
  let (negative, body) := match body with
    | '-' :: rest => (true, rest)
    | '+' :: rest => (false, rest)
    | _ => (false, body)
  let ds := body.takeWhile isDigit
  if ds ≠ [] ∧ (body.drop ds.length).all isSpace then
    some (if negative then -(Text.decimal ds : Int) else Text.decimal ds)
  else none

/-- A number, or a complaint that it is none. -/
def integer (o : Octets) : Check Int :=
  match integer? o with
  | some n => return n
  | none => Tool.fail (α := Int) 2 ("invalid integer ".toList ++ quoteEscaped o)

/-- Complains that an argument should follow the last one. -/
def missing {α : Type} (last : Octets) : Check α :=
  Tool.fail (α := α) 2 ("missing argument after ".toList ++ quoteEscaped last)

/-- Takes the next argument. -/
def next (last : Octets) : Check Octets := do
  match ← get with
  | [] => missing last
  | arg :: rest =>
    set rest
    return arg

/-- A condition on one operand. -/
def unary (last : Octets) : Check Bool := do
  let op ← next last
  let letter := op.getLastD '-'
  let ask (request : Octets → Process → StateM Machine Bool) : Check Bool := do
    let operand ← next last
    Tool.ask (request operand)
  match FileTest.letters.lookup letter with
  | some t => ask fun operand p => p.holds t operand
  | none =>
    match letter with
    | 'n' => return (← next last) ≠ []
    | 'z' => return (← next last) = []
    | 'h' | 'L' => ask fun operand p => p.isLink operand
    | 't' =>
      discard <| integer (← next last)
      return false
    | _ => Tool.fail (α := Bool) 2 (quoteEscaped op ++ ": unary operator expected".toList)

/-- A condition on two operands; `-l` in front of one stands for its length. -/
def binary (last : Octets) (leftLength : Bool) : Check Bool := do
  if leftLength then discard <| next last
  let left ← next last
  let op ← next last
  let rightLength := match ← get with
    | ['-', 'l'] :: _ :: _ => true
    | _ => false
  if rightLength then discard <| next last
  let right ← next last
  let measured (length : Bool) (o : Octets) : Check Int :=
    if length then return (o.length : Int) else integer o
  match comparison? op with
  | some compare =>
    let a ← measured leftLength left
    let b ← measured rightLength right
    return compare a b
  | none =>
    let refuse : Check Unit := do
      if leftLength || rightLength then
        Tool.fail (α := Unit) 2 (op ++ " does not accept -l".toList)
    if op = "-nt".toList then
      refuse
      Tool.ask fun p => p.isNewer left right
    else if op = "-ot".toList then
      refuse
      Tool.ask fun p => p.isNewer right left
    else if op = "-ef".toList then
      refuse
      Tool.ask fun p => p.isSame left right
    else return (op == "!=".toList) != (left == right)

/-- A condition of one argument. -/
def one (last : Octets) : Check Bool := return (← next last) ≠ []

/-- A condition of two arguments. -/
def two (last : Octets) : Check Bool := do
  match ← get with
  | ['!'] :: _ =>
    discard <| next last
    return !(← one last)
  | first :: _ => if isUnary first then unary last else missing last
  | [] => missing last

/-- Reads conditions joined by an operator, and joins their answers. -/
def joined (op : Octets) (join : Bool → Bool → Bool) (term : Check Bool) :
    Nat → Bool → Check Bool
  | 0, answer => return answer
  | fuel + 1, answer => do
    let answer := join answer (← term)
    match ← get with
    | next :: rest =>
      if next = op then
        set rest
        joined op join term fuel answer
      else return answer
    | [] => return answer

/-- A condition of some number of arguments. -/
def check (last : Octets) : Nat → Nat → Check Bool
  | 0, _ => missing last
  | fuel + 1, n => do
    let rec term : Nat → Check Bool
      | 0 => missing last
      | more + 1 => do
        let args ← get
        match args with
        | [] => missing last
        | ['!'] :: _ =>
          discard <| next last
          if (← get) = [] then missing last
          return !(← term more)
        | ['('] :: rest =>
          set rest
          if rest = [] then missing last
          let inner := match ((rest.drop 1).take 4).findIdx? (· = [')']) with
            | some k => k + 1
            | none => rest.length
          let answer ← check last fuel inner
          match ← get with
          | [] => Tool.fail (α := Bool) 2 "')' expected".toList
          | [')'] :: rest =>
            set rest
            return answer
          | other :: _ =>
            Tool.fail (α := Bool) 2 ("')' expected, found ".toList ++ quoteEscaped other)
        | first :: rest =>
          match first, rest with
          | ['-', 'l'], _ :: op :: _ :: _ => if isBinary op then return ← binary last true
          | _, _ => pure ()
          match rest with
          | op :: _ :: _ => if isBinary op then return ← binary last false
          | _ => pure ()
          if isUnary first then unary last else one last
    let whole : Check Bool := do
      if (← get) = [] then missing last
      joined ['-', 'o'] or (joined ['-', 'a'] and (term (fuel + 1)) (fuel + 1) true) (fuel + 1)
        false
    let three : Check Bool := do
      match ← get with
      | first :: second :: third :: _ =>
        if isBinary second then binary last false
        else if first = ['!'] then
          discard <| next last
          return !(← two last)
        else if first = ['('] ∧ third = [')'] then
          discard <| next last
          let answer ← one last
          discard <| next last
          return answer
        else if second = ['-', 'a'] ∨ second = ['-', 'o'] then whole
        else Tool.fail (α := Bool) 2 (quoteEscaped second ++ ": binary operator expected".toList)
      | _ => missing last
    match n with
    | 1 => one last
    | 2 => two last
    | 3 => three
    | 4 =>
      match ← get with
      | ['!'] :: _ =>
        discard <| next last
        return !(← three)
      | ['('] :: _ :: _ :: [')'] :: _ =>
        discard <| next last
        let answer ← two last
        discard <| next last
        return answer
      | _ => whole
    | _ => whole

/-- The exit code for arguments that are read as a condition. -/
def exitCode (args : List Octets) : Tool Nat := do
  if args = [] then return 1
  let last := args.getLastD []
  let (answer, rest) ← (check last (args.length + 2) args.length).run args
  match rest with
  | [] => return if answer then 0 else 1
  | extra :: _ => Tool.fail 2 ("extra argument ".toList ++ quoteEscaped extra)

end Condition

/-- Exits with zero if a condition holds. -/
def Tool.test : Tool Nat := do Condition.exitCode (← read).args

/-- The other form of `test`, which ends with a bracket. -/
def Tool.bracket : Tool Nat := do
  let args := (← read).args
  if args.getLast? = some [']'] then Condition.exitCode args.dropLast
  else Tool.fail 2 "missing ']'".toList

end LineShell.Unix
