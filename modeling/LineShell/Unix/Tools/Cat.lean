import LineShell.Unix.Tool

/-! Copying files to standard output, with line numbers and visible forms of bytes if asked for. -/

namespace LineShell.Unix

namespace Cat

/-- How files are shown. -/
structure Style where
  number : Bool := false
  /-- Only lines that are not empty are numbered. -/
  nonblank : Bool := false
  squeeze : Bool := false
  nonprinting : Bool := false
  tabs : Bool := false
  ends : Bool := false
  deriving DecidableEq

/-- Whether bytes are changed at all. -/
def Style.isPlain (s : Style) : Bool :=
  !(s.number || s.squeeze || s.nonprinting || s.tabs || s.ends)

/-- What is carried from byte to byte and from file to file. -/
structure Position where
  line : Nat := 0
  /-- The number of ends of lines since the last byte of a line; none inside of a line. -/
  newlines : Option Nat := some 0
  /-- A carriage return that may turn out to be part of the end of a line. -/
  pending : Bool := false

/-- The visible form of a byte. -/
def visible (c : Char) : Octets :=
  let low (n : Nat) : Octets :=
    if n < 32 then ['^', Char.ofNat (n + 64)] else if n = 127 then ['^', '?'] else [Char.ofNat n]
  if c.toNat < 128 then low c.toNat else 'M' :: '-' :: low (c.toNat - 128)

/-- The number in front of a line. -/
def numbered (n : Nat) : Octets := (Text.ofNat n).leftpad 6 ' ' ++ ['\t']

/-- Shows the next byte. -/
def Style.step (s : Style) (p : Position) (c : Char) : Octets × Position :=
  if c = '\n' then
    let count := match p.newlines with
      | some n => n + 1
      | none => 0
    if s.squeeze ∧ count ≥ 2 then ([], { p with newlines := some 2 })
    else
      let counts := count > 0 && s.number && !s.nonblank
      let line := if counts then p.line + 1 else p.line
      ((if counts then numbered line else []) ++
        (if s.ends then (if p.pending then "^M$".toList else ['$']) else []) ++ ['\n'],
        ⟨line, some (min count 2), false⟩)
  else
    let starts := p.newlines.isSome && s.number
    let line := if starts then p.line + 1 else p.line
    let front := (if p.pending then ['\r'] else []) ++ if starts then numbered line else []
    if c = '\r' ∧ s.ends ∧ !s.nonprinting then (front, ⟨line, none, true⟩)
    else
      let shown :=
        if c = '\t' then (if s.tabs then ['^', 'I'] else ['\t'])
        else if s.nonprinting then visible c
        else [c]
      (front ++ shown, ⟨line, none, false⟩)

/-- Shows bytes. -/
def Style.show (s : Style) (p : Position) (bytes : Octets) : Octets × Position :=
  let (chunks, p) := bytes.foldl (fun (chunks, p) c =>
    let (chunk, p) := s.step p c
    (chunk :: chunks, p)) ([], p)
  (chunks.reverse.flatten, p)

def switches : List Switch := [
  ⟨['b'], ["number-nonblank"], .none⟩, ⟨['n'], ["number"], .none⟩,
  ⟨['s'], ["squeeze-blank"], .none⟩, ⟨['v'], ["show-nonprinting"], .none⟩,
  ⟨['E'], ["show-ends"], .none⟩, ⟨['T'], ["show-tabs"], .none⟩, ⟨['A'], ["show-all"], .none⟩,
  ⟨['e'], [], .none⟩, ⟨['t'], [], .none⟩, ⟨['u'], [], .none⟩, ⟨[], ["help"], .none⟩,
  ⟨[], ["version"], .none⟩]

/-- The style with an option added. -/
def Style.set (s : Style) (key : String) : Style :=
  match key with
  | "b" => { s with number := true, nonblank := true }
  | "n" => { s with number := true }
  | "s" => { s with squeeze := true }
  | "v" => { s with nonprinting := true }
  | "E" => { s with ends := true }
  | "T" => { s with tabs := true }
  | "A" => { s with nonprinting := true, ends := true, tabs := true }
  | "e" => { s with nonprinting := true, ends := true }
  | "t" => { s with nonprinting := true, tabs := true }
  | _ => s

/-- Writes bytes that are not to be kept back. -/
def deliver (bytes : Octets) : Tool Unit := do
  if bytes ≠ [] then
    match ← Tool.write 1 bytes with
    | .ok () => return
    | .error e => Tool.fail 1 "write error".toList e

/-- Whether copying a file to standard output would never end: the file is what is written to, and
writing goes on behind where reading is. -/
def feedsItself (fd : Nat) : Tool Bool := do
  let input ← Tool.ask (·.description? fd)
  let output ← Tool.ask (·.description? 1)
  match input, output with
  | some (_, ⟨.file i, _, position⟩), some (_, ⟨.file j, how, offset⟩) =>
    let files ← Tool.files
    match files.node? i with
    | some (.regular contents) =>
      return i == j && position < (if how.appends then contents.length else offset)
    | _ => return false
  | _, _ => return false

/-- Whether bytes can go from file to file at once. What goes wrong then is the fault of the file
that is read. -/
def isDirect (fd : Nat) : Tool Bool := do
  let input ← Tool.ask (·.description? fd)
  let output ← Tool.ask (·.description? 1)
  let files ← Tool.files
  let isRegular (i : Inode) : Bool := files.node? i matches some (.regular _)
  match input, output with
  | some (_, ⟨.file i, _, _⟩), some (_, ⟨.file j, how, _⟩) =>
    return isRegular i && isRegular j && !how.appends
  | _, _ => return false

/-- Copies what is open under a descriptor, block by block. A file that is copied at once is found
to be too large for the other one even if nothing of it is left. -/
def copy (s : Style) (p : Position) (fd : Nat) (name : Octets) : Tool (Position × Bool) := do
  if ← feedsItself fd then
    Tool.complain (quoteBeforeColon name ++ ": input file is output file".toList)
    return (p, false)
  let direct := s.isPlain && (← isDirect fd)
  iterate (return (p, false)) (fun p => do
    if direct && (← Tool.ask (·.isFull 1)) then
      Tool.heed
      Tool.complain (quoteBeforeColon name) (some .fileTooLarge)
      return .inr (p, false)
    match ← Tool.take fd Process.blockSize with
    | .error e =>
      Tool.complain (quoteBeforeColon name) e
      return .inr (p, false)
    | .ok [] => return .inr (p, true)
    | .ok bytes =>
      let (shown, p) := if s.isPlain then (bytes, p) else s.show p bytes
      if direct then
        if let .error e ← Tool.write 1 shown then
          Tool.complain (quoteBeforeColon name) e
          return .inr (p, false)
      else deliver shown
      return .inl p) maxSteps p

end Cat

/-- Copies files to standard output. -/
def Tool.cat : Tool Nat := do
  let (style, names) ← Tool.options 1 Cat.switches ({} : Cat.Style) fun s o => return s.set o.key
  let isClosed (fd : Nat) : Tool Bool := return (← Tool.ask (·.description? fd)).isNone
  if ← isClosed 1 then
    Tool.fail 1 "standard output".toList (some .badDescriptor)
  let names := if names = [] then [['-']] else names
  let (position, ok) ← names.foldlM (fun (position, ok) name => do
    if name = ['-'] then
      let (position, fine) ← Cat.copy style position 0 name
      return (position, ok && fine)
    else
      match ← Tool.ask (·.openPath name { reads := true }) with
      | .error e =>
        Tool.complain (quoteBeforeColon name) e
        return (position, false)
      | .ok index =>
        let fd ← Tool.ask fun p => Machine.keep p.pid index
        let (position, fine) ← Cat.copy style position fd name
        Tool.ask fun p => Machine.connect p.pid fd none
        return (position, ok && fine)) (({} : Cat.Position), true)
  if position.pending then Cat.deliver ['\r']
  if names.contains ['-'] && (← isClosed 0) then
    Tool.fail 1 "closing standard input".toList (some .badDescriptor)
  return if ok then 0 else 1

end LineShell.Unix
