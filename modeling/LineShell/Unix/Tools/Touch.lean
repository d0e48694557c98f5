import LineShell.Unix.Date.Phrase
import LineShell.Unix.Date.Stamp
import LineShell.Unix.Tool

/-! Setting the times of files, which are made if they do not exist. -/

namespace LineShell.Unix

namespace Touch

/-- Which times are set, and to what. -/
structure Settings where
  accessed : Bool := false
  modified : Bool := false
  noCreate : Bool := false
  noFollow : Bool := false
  date : Option Octets := none
  reference : Option Octets := none
  stamp : Option Int := none

/-- The times to set: of access and of modification. -/
structure Times where
  accessed : Int
  modified : Int

def switches : List Switch := [⟨['a'], [], .none⟩, ⟨['c'], ["no-create"], .none⟩,
  ⟨['d'], ["date"], .required⟩, ⟨['f'], [], .none⟩, ⟨['h'], ["no-dereference"], .none⟩,
  ⟨['m'], [], .none⟩, ⟨['r'], ["reference"], .required⟩, ⟨['t'], [], .required⟩,
  ⟨[], ["time"], .required⟩, ⟨[], ["help"], .none⟩, ⟨[], ["version"], .none⟩]

/-- Complains about a date. -/
def badDate {α : Type} (text : Octets) : Tool α :=
  Tool.fail 1 ("invalid date format ".toList ++ quoteEscaped text)

/-- The settings with an option added. -/
def set (s : Settings) (o : Choice) : Tool Settings := do
  match o.key with
  | "a" => return { s with accessed := true }
  | "m" => return { s with modified := true }
  | "c" => return { s with noCreate := true }
  | "h" => return { s with noFollow := true }
  | "d" => return { s with date := some o.argument }
  | "r" => return { s with reference := some o.argument }
  | "t" =>
    match Date.ofStamp? (← Tool.zone) (← Tool.files).now o.argument with
    | some t => return { s with stamp := some t }
    | none => badDate o.argument
  | "time" =>
    if ← Tool.word "--time" [(true, ["atime", "access", "use"]), (false, ["mtime", "modify"])]
        o.argument then return { s with accessed := true }
    else return { s with modified := true }
  | _ => return s

/-- The times that the settings ask for; none of them stands for the present. -/
def times (s : Settings) : Tool (Option Times) := do
  let now := (← Tool.files).now
  let zone ← Tool.zone
  match s.reference with
  | some path =>
    match ← Tool.ask (·.stat path (!s.noFollow)) with
    | .error e => Tool.fail 1 ("failed to get attributes of ".toList ++ quoteName path) e
    | .ok facts =>
      match s.date with
      | none => return some ⟨facts.accessed, facts.modified⟩
      | some text =>
        match Phrase.read? zone facts.accessed text, Phrase.read? zone facts.modified text with
        | some a, some m => return some ⟨a, m⟩
        | _, _ => badDate text
  | none =>
    match s.date with
    | some text =>
      match Phrase.read? zone now text with
      | some t => return some ⟨t, t⟩
      | none => badDate text
    | none => return s.stamp.map fun t => ⟨t, t⟩

/-- Sets the times of a file. -/
def setTimes (s : Settings) (times : Times) (i : Inode) : Tool Unit := do
  let both := s.accessed == s.modified
  let storable := FileSystem.storable
  let now := (← Tool.files).now
  Tool.adjust (·.modify i fun f =>
    { f with
      accessed := if s.accessed || both then storable times.accessed else f.accessed
      modified := if s.modified || both then storable times.modified else f.modified
      changed := now })

/-- Deals with one file. -/
def one (s : Settings) (times : Option Times) (path : Octets) : Tool Bool := do
  let now := (← Tool.files).now
  let times := times.getD ⟨now, now⟩
  let setting (e : Reason) : Tool Bool := do
    if s.noCreate && e == .noEntry then return true
    Tool.complain ("setting times of ".toList ++ quoteName path) e
    return false
  if path = ['-'] then
    match ← Tool.ask (·.factsOf 1) with
    | .ok facts =>
      if let .file i := facts.identity then setTimes s times i
      return true
    | .error e => if s.noCreate then return true else setting e
  else
    let opened ←
      if s.noCreate || s.noFollow then pure none
      else
        match ← Tool.ask (·.openPath path { writes := true, creates := true }) with
        | .ok _ => pure none
        | .error e => pure (some e)
    let p ← read
    match (← Tool.files).resolve p.dir path (!s.noFollow) with
    | .ok i =>
      setTimes s times i
      return true
    | .error e =>
      match opened with
      | some reason =>
        if reason = .isDirectory then setting e
        else
          Tool.complain ("cannot touch ".toList ++ quoteName path) reason
          return false
      | none => setting e

end Touch

/-- Sets the times of files. -/
def Tool.touch : Tool Nat := do
  let (s, paths) ← Tool.options 1 Touch.switches ({} : Touch.Settings) Touch.set
  if s.stamp.isSome && (s.date.isSome || s.reference.isSome) then
    Tool.misuse 1 "cannot specify times from more than one source".toList
  let times ← Touch.times s
  if paths = [] then Tool.misuse 1 "missing file operand".toList
  return if ← Tool.forEach paths (Touch.one s times) then 0 else 1

end LineShell.Unix
