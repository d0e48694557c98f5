import LineShell.Unix.Numeral
import LineShell.Unix.Pattern
import LineShell.Unix.Tool

/-! Replacing, deleting and squeezing bytes of standard input. Which bytes is said by sets, such as
`a-z`, `[:digit:]` or `[x*5]`. -/

namespace LineShell.Unix

open Octets

namespace Translate

/-- How a part of a set was written, as far as that matters. -/
inductive Form
  | plain
  | equivalence
  | named
  /-- The class of all capital or all small letters. -/
  | letters (upper : Bool)
  /-- A byte as many times as are needed. -/
  | onDemand
  deriving DecidableEq, Repr

/-- A part of a set, with its bytes in order. -/
structure Item where
  form : Form := .plain
  bytes : List Char
  deriving DecidableEq, Repr

/-- The bytes of a set. -/
def bytes (set : List Item) : List Char := set.flatMap (·.bytes)

/-- A byte of the text of a set, and whether it was escaped. -/
abbrev Mark := Char × Bool

/-- Resolves the escape of a byte behind a backslash. There is a complaint if its meaning is in
doubt. -/
def escape (c : Char) (rest : Octets) : Char × Octets × Option Octets :=
  match digit? 8 c with
  | none =>
    (match "abfnrtv".toList.idxOf? c with
      | some i => Char.ofNat ([7, 8, 12, 10, 13, 9, 11].getD i 0)
      | none => c, rest, none)
  | some n =>
    let (wide, behind) := digitsUpTo 8 2 n rest
    if wide ≤ 255 then (Char.ofNat wide, behind, none)
    else
      let (b, d) := (rest.headD '0', rest.getD 1 '0')
      (Char.ofNat (wide / 8), rest.drop 1, some ("warning: the ambiguous octal escape \\".toList ++
        [c, b, d] ++ " is being\n\tinterpreted as the 2-byte sequence \\0".toList ++ [c, b] ++
        ", ".toList ++ [d]))

theorem length_escape_le (c : Char) (rest : Octets) :
    (escape c rest).2.1.length ≤ rest.length := by
  unfold escape
  split
  · simp
  · have := length_digitsUpTo_le
    dsimp only
    split
    · exact this ..
    · simp

/-- Resolves escapes. There are complaints about those whose meaning is in doubt. -/
def unescape : Octets → List Mark × List Octets
  | [] => ([], [])
  | ['\\'] =>
    ([('\\', false)],
      ["warning: an unescaped backslash at end of string is not portable".toList])
  | '\\' :: c :: rest =>
    have := length_escape_le c rest
    let more := unescape (escape c rest).2.1
    (((escape c rest).1, true) :: more.1, (escape c rest).2.2.toList ++ more.2)
  | c :: rest =>
    let more := unescape rest
    ((c, false) :: more.1, more.2)
termination_by text => text.length
decreasing_by
  · simp_all only [List.length_cons]
    omega
  · simp

/-- The bytes up to a delimiter and a closing bracket, and what stands behind. -/
def closing? (delimiter : Char) : List Mark → Option (Octets × List Mark)
  | [] => none
  | m :: rest =>
    if m = (delimiter, false) ∧ rest.head? = some (']', false) then some ([], rest.tail)
    else (closing? delimiter rest).map fun (inside, behind) => (m.1 :: inside, behind)

/-- Reads a byte, a star, a number and a closing bracket; nothing is read if the number is wrong. -/
def copies? : List Mark → Option (Except Octets (Item × List Mark))
  | (c, _) :: ('*', false) :: rest =>
    let number := (rest.takeWhile fun m => !m.2 && m.1 != ']').map (·.1)
    match rest.drop number.length with
    | (']', false) :: behind =>
      let (n, left) := digits (if number.head? = some '0' then 8 else 10) 0 number
      if left ≠ [] ∨ n > Numeral.maxUnsigned then
        some (.error ("invalid repeat count ".toList ++ quoteEscaped number ++
          " in [c*n] construct".toList))
      else if n = 0 then some (.ok (⟨.onDemand, [c]⟩, behind))
      else some (.ok (⟨.plain, List.replicate (min n 0x10000) c⟩, behind))
    | _ => none
  | _ => none

/-- All bytes in order. -/
def allBytes : List Char := (List.range 256).map Char.ofNat

/-- The class with a name. -/
def class? (name : Octets) : Option Item :=
  (Pattern.classes.find? (·.1.toList = name)).map fun (_, test) =>
    ⟨if name = "upper".toList then .letters true
      else if name = "lower".toList then .letters false
      else .named, allBytes.filter test⟩

/-- Whether marks start with a star, digits and a closing bracket. -/
def startsCount : List Mark → Bool
  | ('*', false) :: rest => (rest.dropWhile (isDigit ·.1)).head? == some (']', false)
  | _ => false

/-- Reads what stands behind an opening bracket, if that has a meaning of its own. -/
def bracket? (marks : List Mark) : Option (Except Octets (Item × List Mark)) :=
  match marks with
  | (':', false) :: rest =>
    match closing? ':' rest with
    | none => copies? marks
    | some (name, behind) =>
      match name, class? name with
      | [], _ => some (.error "missing character class name '[::]'".toList)
      | _, some item => some (.ok (item, behind))
      | _, none =>
        if startsCount rest then copies? marks
        else some (.error ("invalid character class ".toList ++ quoteEscaped name))
  | ('=', false) :: rest =>
    match closing? '=' rest with
    | none => copies? marks
    | some ([], _) => some (.error "missing equivalence class character '[==]'".toList)
    | some ([c], behind) => some (.ok (⟨.equivalence, [c]⟩, behind))
    | some (text, _) =>
      if startsCount rest then copies? marks
      else some (.error (text ++ ": equivalence class operand must be a single character".toList))
  | _ => copies? marks

/-- Reads a set. -/
def read : Nat → List Mark → Except Octets (List Item)
  | 0, _ | _, [] => .ok []
  | fuel + 1, m :: rest => do
    match (if m = ('[', false) ∧ rest.length ≥ 2 then bracket? rest else none), rest with
    | some answer, _ =>
      let (item, rest) ← answer
      return item :: (← read fuel rest)
    | none, ('-', false) :: d :: behind =>
      if m.1.toNat > d.1.toNat then
        .error ("range-endpoints of '".toList ++ [m.1, '-', d.1] ++
          "' are in reverse collating sequence order".toList)
      let span := allBytes.filter fun c => m.1.toNat ≤ c.toNat && c.toNat ≤ d.1.toNat
      return ⟨.plain, span⟩ :: (← read fuel behind)
    | none, _ => return ⟨.plain, [m.1]⟩ :: (← read fuel rest)

/-- What is to be done. -/
structure Style where
  complement : Bool := false
  delete : Bool := false
  squeeze : Bool := false
  truncate : Bool := false
  deriving DecidableEq

/-- The bytes that a style changes: those of a set, or those that are not in it. -/
def Style.domain (s : Style) (set : List Item) : List Char :=
  if s.complement then allBytes.filter (!(bytes set).contains ·) else bytes set

/-- Bytes and what becomes of them; what comes later counts. -/
abbrev Mapping := List (Char × Char)

/-- The bytes of a set; those that start the letters of one case are marked. -/
def starts (set : List Item) : List (Char × Option Bool) :=
  set.flatMap fun item =>
    match item.form, item.bytes with
    | .letters upper, c :: cs => (c, some upper) :: cs.map (·, none)
    | _, cs => cs.map (·, none)

/-- The number of letters. -/
def alphabet : Nat := 26

/-- The mapping of the letters of one case to those of a case. -/
def caseMapping (upper toUpper : Bool) : Mapping :=
  match upper, toUpper with
  | true, true => [('A', 'A')]
  | false, false => [('a', 'a')]
  | _, _ =>
    allBytes.filterMap fun c =>
      let d := if toUpper then c.toUpper else c.toLower
      if c = d then none else some (c, d)

/-- Puts two sets side by side: the mapping, and the bytes of the first that are left over. The
letters of one case can stand against those of a case, but not against other bytes. -/
def align : List (Char × Option Bool) → List (Char × Option Bool) →
    Except Octets (Mapping × List Char)
  | first, [] => .ok ([], first.map (·.1))
  | first, second@((_, some toUpper) :: rest) =>
    match first with
    | (_, some upper) :: behind =>
      let second := rest.drop (alphabet - 1)
      have : (rest.drop (alphabet - 1)).length < second.length + 1 := by simp [second]
      (align (behind.drop (alphabet - 1)) second).map fun (mapping, left) =>
        (caseMapping upper toUpper ++ mapping, left)
    | _ => .error "misaligned [:upper:] and/or [:lower:] construct".toList
  | first, (d, none) :: second =>
    match first with
    | (c, _) :: first => (align first second).map fun (mapping, left) => ((c, d) :: mapping, left)
    | [] => .ok ([], [])
termination_by _ second => second.length
decreasing_by all_goals (simp; try omega)

/-- The byte that stands in where the second set is too short. -/
def filler (second : List Item) : Except Octets Char :=
  match second.getLast? with
  | none => .error "when not truncating set1, string2 must be non-empty".toList
  | some ⟨form, cs⟩ =>
    match form, cs.getLast? with
    | .plain, some c | .onDemand, some c | .equivalence, some c => .ok c
    | _, _ => .error ("when translating with string1 longer than string2,\n".toList ++
        "the latter string must not end with a character class".toList)

/-- The second set with its open item filled up to a number of bytes. -/
def fill (total : Nat) (second : List Item) : List Item :=
  let closed := (bytes (second.filter (·.form ≠ .onDemand))).length
  second.map fun item =>
    if item.form = .onDemand then ⟨.onDemand, item.bytes.flatMap (List.replicate (total - closed))⟩
    else item

/-- The mapping from one set to another, and all bytes of the second. -/
def Style.mapping (s : Style) (first second : List Item) : Except Octets (Mapping × List Char) := do
  let domain := s.domain first
  let second := fill domain.length second
  if second.any (·.form = .equivalence) then
    .error "[=c=] expressions may not appear in string2 when translating".toList
  if second.any (·.form = .named) then
    .error ("when translating, the only character classes that may appear in\n".toList ++
      "string2 are 'upper' and 'lower'".toList)
  let targets := bytes second
  let (mapping, left) ←
    if s.complement then pure (domain.zip targets, domain.drop targets.length)
    else align (starts first) (starts second)
  let tail ← if left = [] ∨ s.truncate then pure []
    else pure (List.replicate left.length (← filler second))
  let targets := targets ++ tail
  let isClass (item : Item) : Bool := !([.plain, .onDemand, .equivalence].contains item.form)
  if s.complement ∧ first.any isClass ∧
      (targets.length ≠ domain.length ∨ targets.any (some · ≠ targets.head?)) then
    .error ("when translating with complemented character classes,\n".toList ++
      "string2 must map all characters in the domain to one".toList)
  return (mapping ++ left.zip tail, targets)

/-- What is to be done to the bytes of standard input. -/
structure Action where
  /-- What becomes of a byte, if it is not deleted. -/
  change : Char → Option Char
  /-- Those of which only one is left if several follow one another. -/
  squeezes : List Char

namespace Action

/-- Deals with some bytes behind one that was left of those before them. -/
def apply (a : Action) (last : Option Char) (input : Octets) : Octets :=
  let step (left : Octets) (c : Char) : Octets :=
    match a.change c with
    | none => left
    | some d => if left.head?.or last = some d ∧ a.squeezes.contains d then left else d :: left
  (input.foldl step []).reverse

/-- Deletes the bytes of a set. -/
def deleting (set : List Char) (c : Char) : Option Char :=
  if set.contains c then none else some c

/-- Replaces bytes. -/
def replacing (mapping : Mapping) : Char → Option Char :=
  let table := mapping.foldl (fun table (c, d) => table.setIfInBounds c.toNat d) allBytes.toArray
  fun c => some (table.getD c.toNat c)

end Action

/-- What the style and the sets ask for. -/
def Style.action (s : Style) (first : List Item) : Option (List Item) → Except Octets Action
  | none =>
    let domain := s.domain first
    if first.any (·.form = .onDemand) then demandFirst
    else if s.squeeze then .ok ⟨some, domain⟩
    else .ok ⟨Action.deleting domain, []⟩
  | some second => do
    if first.any (·.form = .onDemand) then demandFirst
    if (second.filter (·.form = .onDemand)).length > 1 then
      .error "only one [c*] repeat construct may appear in string2".toList
    if s.delete then
      if second.any (·.form = .onDemand) then
        .error "the [c*] construct may appear in string2 only when translating".toList
      let domain := s.domain first
      return ⟨Action.deleting domain, bytes second⟩
    let (mapping, targets) ← s.mapping first second
    return ⟨Action.replacing mapping, if s.squeeze then targets else []⟩
where
  demandFirst {α : Type} : Except Octets α :=
    .error "the [c*] repeat construct may not appear in string1".toList

def switches : List Switch := [
  ⟨['c', 'C'], ["complement"], .none⟩, ⟨['d'], ["delete"], .none⟩,
  ⟨['s'], ["squeeze-repeats"], .none⟩, ⟨['t'], ["truncate-set1"], .none⟩,
  ⟨[], ["help"], .none⟩, ⟨[], ["version"], .none⟩]

/-- The style with an option added. -/
def Style.set (s : Style) (key : String) : Style :=
  match key with
  | "c" => { s with complement := true }
  | "d" => { s with delete := true }
  | "s" => { s with squeeze := true }
  | "t" => { s with truncate := true }
  | _ => s

/-- Complains if the number of sets is wrong. -/
def checkOperands (s : Style) (sets : List Octets) : Tool Unit := do
  let least := if s.delete = s.squeeze then 2 else 1
  let most := if s.delete ∧ !s.squeeze then 1 else 2
  if sets.length < least then
    match sets.getLast? with
    | none => Tool.complain "missing operand".toList
    | some set =>
      Tool.complain ("missing operand after ".toList ++ quoteEscaped set)
      Tool.tell (if s.squeeze then
          "Two strings must be given when both deleting and squeezing repeats.".toList
        else "Two strings must be given when translating.".toList)
    Tool.pointToHelp 1
  match sets.drop most with
  | [] => return
  | set :: _ =>
    Tool.complain ("extra operand ".toList ++ quoteEscaped set)
    if sets.length = 2 then
      Tool.tell
        "Only one string may be given when deleting without squeezing repeats.".toList
    Tool.pointToHelp 1

/-- Reads a set, or complains and exits. -/
def readSet (text : Octets) : Tool (List Item) := do
  let (marks, doubts) := unescape text
  for doubt in doubts do Tool.complain doubt
  match read (marks.length + 1) marks with
  | .ok set => return set
  | .error text => Tool.fail 1 text

end Translate

/-- Replaces, deletes or squeezes the bytes of standard input. -/
def Tool.tr : Tool Nat := do
  let (style, sets) ← Tool.options 1 Translate.switches ({} : Translate.Style)
    (fun s o => return s.set o.key) true
  Translate.checkOperands style sets
  let first ← Translate.readSet (sets.headD [])
  let second ← sets[1]?.mapM Translate.readSet
  match style.action first second with
  | .error text => Tool.fail 1 text
  | .ok action =>
    iterate (return 0) (fun (last : Option Char) => do
      match ← Tool.take 0 Process.blockSize with
      | .error e => Tool.fail 1 "read error".toList e
      | .ok [] => return .inr 0
      | .ok input =>
        let output := action.apply last input
        Tool.print output
        return .inl (output.getLast?.or last)) maxSteps none

end LineShell.Unix
