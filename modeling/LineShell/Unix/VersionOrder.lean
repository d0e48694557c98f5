import LineShell.Unix.Octets

/-! The order of names with version numbers in them: digits count as numbers, a tilde comes before
the end of a name, and what looks like a file name extension counts only between names that are
equal otherwise. -/

namespace LineShell.Unix

open Octets

namespace VersionOrder

/-- The rank of the first byte of what is left of a name. -/
def rank : Octets → Int
  | [] => -1
  | c :: _ =>
    if isDigit c then 0
    else if isLetter c then c.toNat
    else if c = '~' then -2
    else c.toNat + 256

/-- Compares up to the next digits: the order, if it is known by then, or what is left. -/
def letters : Octets → Octets → Ordering × Octets × Octets
  | c :: cs, d :: ds =>
    if isDigit c ∧ isDigit d then (.eq, c :: cs, d :: ds)
    else if rank (c :: cs) = rank (d :: ds) then letters cs ds
    else (compare (rank (c :: cs)) (rank (d :: ds)), [], [])
  | [], [] => (.eq, [], [])
  | [], d :: ds => if isDigit d then (.eq, [], d :: ds) else (compare (-1) (rank (d :: ds)), [], [])
  | c :: cs, [] => if isDigit c then (.eq, c :: cs, []) else (compare (rank (c :: cs)) (-1), [], [])

/-- Compares letters and numbers in turn. -/
def parts : Nat → Octets → Octets → Ordering
  | 0, _, _ | _, [], [] => .eq
  | fuel + 1, a, b =>
    match letters a b with
    | (.eq, a, b) =>
      let (n, a') := digits 10 0 a
      let (m, b') := digits 10 0 b
      (compare n m).then (parts fuel a' b')
    | (order, _, _) => order

/-- What follows the extensions at the start of a text. -/
def skipExtensions : Nat → Octets → Octets
  | fuel + 1, '.' :: c :: rest =>
    if isLetter c ∨ c = '~' then
      skipExtensions fuel (rest.dropWhile fun d => isLetter d || isDigit d || d == '~')
    else '.' :: c :: rest
  | _, text => text

/-- The bytes in front of the extensions at the end of a name. The first byte always counts. -/
def stemLength : Nat → Octets → Nat
  | 0, _ | _, [] => 0
  | fuel + 1, _ :: rest =>
    match skipExtensions rest.length rest with
    | [] => 1
    | left => 1 + (rest.length - left.length) + stemLength fuel left

/-- The order of two names. -/
def compareNames (a b : Octets) : Ordering :=
  let front (o : Octets) : Nat :=
    match o with
    | [] => 0
    | ['.'] => 1
    | ['.', '.'] => 2
    | '.' :: _ => 3
    | _ => 4
  let all := parts (a.length + b.length + 1)
  (compare (front a) (front b)).then <|
    if front a < 3 then .eq
    else (all (a.take (stemLength a.length a)) (b.take (stemLength b.length b))).then (all a b)

end VersionOrder

end LineShell.Unix
