import LineShell.Unix.Date.Zone

/-! Points in time as digits alone. -/

namespace LineShell.Unix.Date

open Octets

/-- Reads a stamp of the form `[[CC]YY]MMDDhhmm[.ss]`, as clocks of a zone show it. -/
def ofStamp? (zone : Zone) (now : Int) (text : Octets) : Option Int := do
  let body := text.takeWhile (· ≠ '.')
  let rest := text.drop body.length
  guard (body.all isDigit)
  let second ← match rest with
    | [] => some 0
    | ['.', a, b] => if isDigit a && isDigit b then some (Text.decimal [a, b]) else none
    | _ => none
  let pair (n : Nat) : Nat := Text.decimal ((body.drop n).take 2)
  let build (year : Int) (skip : Nat) : Option Int := do
    let d : Date := ⟨year, pair skip, pair (skip + 2), pair (skip + 4), pair (skip + 6), second⟩
    guard d.isValid
    let full : Date := { d with second := min second 59 }
    let t := zone.universal full.seconds
    guard ((zone.localTime t).date = full)
    return (t + (second - full.second)) * nano
  match body.length with
  | 8 => build (zone.localTime (now.fdiv nano)).date.year 0
  | 10 => build (shortYear (pair 0)) 2
  | 12 => build (pair 0 * 100 + pair 2) 4
  | _ => none

end LineShell.Unix.Date
