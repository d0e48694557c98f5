import LineShell.Unix.Scripting.Reader

/-! Words and tokens. How a byte is read depends on the quotes around it and on the braces and
parentheses that are open; a frame holds that for as long as it stays the same. -/

namespace LineShell.Unix.Scripting

/-- How bytes are read. -/
inductive Mode
  | bare
  | double
  | single
  | arithmetic
  deriving DecidableEq, Repr

/-- The part that a byte plays. -/
inductive Role
  | newline
  | ordinary
  | backslash
  | singleQuote
  | doubleQuote
  | endQuote
  | dollar
  | closeBrace
  | openParen
  | closeParen
  | backquote
  /-- Ends a word. -/
  | separator
  deriving DecidableEq, Repr

/-- The role of a byte. -/
def Mode.role (m : Mode) (c : Char) : Role :=
  if c = '\n' then .newline
  else if m = .single then if c = '\'' then .endQuote else .ordinary
  else if c = '\\' then .backslash
  else if c = '\x60' then .backquote
  else if c = '$' then .dollar
  else if c = '\x7d' then .closeBrace
  else
    match m, c with
    | .bare, '\'' => .singleQuote
    | .bare, '"' => .doubleQuote
    | .bare, '<' | .bare, '>' | .bare, '(' | .bare, ')' | .bare, ';' | .bare, '&' | .bare, '|'
    | .bare, ' ' | .bare, '\t' => .separator
    | .double, '"' => .endQuote
    | .arithmetic, '(' => .openParen
    | .arithmetic, ')' => .closeParen
    | _, _ => .ordinary

/-- The surroundings of a byte. -/
structure Frame where
  mode : Mode
  /-- Inside double quotes, or what counts as such. -/
  quoting : Bool := false
  /-- Inside double quotes that were opened inside braces. -/
  inner : Bool := false
  /-- The frame lasts as long as the braces that it started with. -/
  lasting : Bool := false
  /-- Braces that are open. -/
  depth : Nat := 0
  /-- Those of them that were opened inside quotes. -/
  quotedDepth : Nat := 0
  parens : Nat := 0

/-- A part of a word that is not yet complete. -/
inductive Opened
  | parameter (name : Octets) (use : Use) (orEmpty : Bool)
  | arithmetic

/-- A word while it is being read. Lists of parts are kept the last one first. -/
structure Draft where
  frame : Frame
  outer : List Frame := []
  parts : List Part := []
  opened : List (Opened × List Part) := []

namespace Draft

def put (d : Draft) (p : Part) : Draft := { d with parts := p :: d.parts }

/-- Adds a byte that has no role here. -/
def add (d : Draft) (c : Char) : Draft :=
  d.put (if d.frame.quoting || d.frame.mode = .single then .quoted c else .plain c)

/-- Starts a part that holds parts of its own. -/
def start (d : Draft) (o : Opened) : Draft :=
  { d with opened := (o, d.parts) :: d.opened, parts := [] }

/-- Completes the part that was started last. -/
def finish (d : Draft) : Draft :=
  match d.opened with
  | (.parameter name use orEmpty, parts) :: opened =>
    { d with opened, parts := .parameter name use orEmpty d.parts.reverse :: parts }
  | (.arithmetic, parts) :: opened =>
    { d with opened, parts := .arithmetic d.parts.reverse :: parts }
  | [] => d

def push (d : Draft) (f : Frame) : Draft := { d with frame := f, outer := d.frame :: d.outer }

/-- Goes back to the surroundings before. -/
def pop (d : Draft) : Draft :=
  match d.outer with
  | f :: outer => { d with frame := f, outer }
  | [] => d

def change (d : Draft) (f : Frame → Frame) : Draft := { d with frame := f d.frame }

/-- Deals with a closing brace. -/
def closeBrace (d : Draft) : Draft :=
  let f := d.frame
  if f.inner || f.depth = 0 then d.add '\x7d'
  else
    let d := d.change ({ · with depth := f.depth - 1 })
    if f.depth = 1 ∧ f.lasting then d.pop.finish
    else (d.change ({ · with quotedDepth := f.quotedDepth - 1 })).finish

end Draft

/-- A here-document that is being read: the line that ends it. -/
structure Ending where
  marker : Octets
  stripTabs : Bool

namespace Reading

/-- Parameters other than names and numbers. -/
def isSpecial (c : Char) : Bool := "!#$?*-@".toList.contains c || Octets.isDigit c

/-- Reads bytes as long as they pass a test, and the byte behind them. -/
def takeWhile (test : Char → Bool) (first : Option Char) : Reading (Octets × Option Char) :=
  loop (fun (bytes, c) => do
    match c with
    | some d => if test d then return .inl (d :: bytes, ← nextJoined)
    | none => pure ()
    return .inr (bytes.reverse, c)) ([], first)

/-- A parameter behind a dollar sign: its name, and how it is used if that is known by then. -/
def parameterName (braces : Bool) (c : Option Char) :
    Reading (Octets × Option Use × Option Char) := do
  let usual : Option Use := if braces then none else some .value
  let name (use : Option Use) (c : Option Char) :
      Reading (Octets × Option Use × Option Char) := do
    if c.any isNameStart then
      let (n, c) ← takeWhile isNameByte c
      return (n, use, c)
    else if use = some .value then return (c.toList, use, ← nextJoined)
    else
      let (n, c) ← takeWhile Octets.isDigit c
      return (n, use, c)
  let unknown (c : Option Char) : Reading (Octets × Option Use × Option Char) :=
    return ([], some .unknown, c)
  match c with
  | none => unknown none
  | some '\x7d' => unknown c
  | some first =>
    if isNameStart first || Octets.isDigit first then name usual c
    else
      let c ← nextJoined
      if braces ∧ first = '#' then
        match c with
        | none => return (['#'], none, none)
        | some second =>
          if isNameByte second then name (some .size) c
          else
            let third ← nextJoined
            if second = '\x7d' ∨ third ≠ some '\x7d' then
              back third
              return (['#'], none, c)
            else if isSpecial second then return ([second], some .size, third)
            else unknown third
      else if isSpecial first then return ([first], usual, c)
      else unknown c

/-- The use that a sign behind a name says. -/
def operation (c : Option Char) : Use :=
  match c with
  | some '\x7d' => .value
  | some '-' => .orElse
  | some '+' => .instead
  | some '?' => .demand
  | some '=' => .assign
  | _ => .unknown

/-- Reads a parameter behind a dollar sign. -/
def parameter (d : Draft) (c : Char) : Reading Draft := do
  let braces := c = '\x7b'
  let first ← if braces then nextJoined else pure (some c)
  let (name, use, c) ← parameterName braces first
  let (use, orEmpty) ← match use, c with
    | some use, _ =>
      back c
      pure (if use = .size ∧ c ≠ some '\x7d' then .unknown else use, false)
    | none, some ':' => pure (operation (← nextJoined), true)
    | none, _ =>
      if c = some '%' ∨ c = some '#' then
        let e ← nextJoined
        if e ≠ c then back e
        pure (.trim (c == some '%') (e == c), false)
      else pure (operation c, false)
  if use = .value ∧ !orEmpty then return d.put (.parameter name use false [])
  let mode : Mode := match use with
    | .trim _ _ => .bare
    | _ => if d.frame.mode = .arithmetic then .double else d.frame.mode
  let d := d.start (.parameter name use orEmpty)
  let d :=
    if mode ≠ d.frame.mode ∨ d.frame.inner then
      d.push { mode, lasting := true, quoting := mode != .bare }
    else d
  return d.change fun f =>
    { f with
      depth := f.depth + 1
      quotedDepth := if f.quoting then f.quotedDepth + 1 else f.quotedDepth }

/-- Reads a command whose output is put in its place. -/
def substitution (list : Reading (Option Command)) : Reading Part := do
  let awaited := (← get).awaited
  modify ({ · with awaited := [] })
  let body ← list
  modify ({ · with awaited })
  return .command body

/-- Reads what stands between backquotes and makes a script of it. -/
def backquoted (quoting : Bool) : Reading Octets :=
  loop (fun text => do
    let c ← nextJoined
    match c with
    | none => fail "EOF in backquote substitution".toList
    | some '\x60' => return .inr text.reverse
    | some '\\' =>
      match ← next with
      | none => return .inl ('\\' :: text)
      | some e =>
        let escapes := e = '\\' ∨ e = '\x60' ∨ e = '$' ∨ quoting ∧ e = '"'
        return .inl (if escapes then e :: text else e :: '\\' :: text)
    | some c =>
      if c = '\n' then newLine
      return .inl (c :: text)) []

/-- Reads a text as if it were a script of its own. -/
def within {α : Type} (text : Octets) (read : Reading α) : Reading α := fun r =>
  match read { r with text, line := 1, strips := [] } with
  | .error e => .error { e with exhausted := r.exhausted }
  | .ok (answer, inner) => .ok (answer, { inner with
      text := r.text, line := r.line, strips := r.strips, exhausted := r.exhausted })

/-- How to read a list of commands for its output: up to the end of the text, or up to a closing
parenthesis. -/
structure Inner where
  toEnd : Reading (Option Command)
  toParen : Reading (Option Command)

/-- Deals with a dollar sign. -/
def dollar (inner : Inner) (d : Draft) : Reading Draft := do
  let c ← nextJoined
  match c with
  | none => return d.add '$'
  | some '(' =>
    let e ← nextJoined
    if e = some '(' then return (d.start .arithmetic).push { mode := .arithmetic, quoting := true }
    back e
    return d.put (← substitution inner.toParen)
  | some c =>
    if c = '\x7b' ∨ isNameStart c ∨ isSpecial c then parameter d c
    else
      back (some c)
      return d.add '$'

/-- Deals with a backslash. -/
def backslash (d : Draft) (inDocument : Bool) : Reading Draft := do
  match ← next with
  | none => return d.put (.quoted '\\')
  | some c =>
    let f := d.frame
    let kept := f.quoting ∧ c ≠ '\\' ∧ c ≠ '\x60' ∧ c ≠ '$' ∧
      (c ≠ '"' ∨ inDocument ∧ f.depth = 0) ∧ (c ≠ '\x7d' ∨ f.depth = 0)
    return (if kept then d.put (.quoted '\\') else d).put (.quoted c)

/-- Reads the line that ends a here-document as far as it is there: the bytes that were read, the
last one first, whether it is there as a whole, and the byte behind it. -/
def ending (seen : Octets) : Octets → Option Char → Reading (Octets × Bool × Option Char)
  | [], c => return (seen, true, c)
  | _ :: _, none => return (seen, false, none)
  | m :: rest, some c => do
    if m = c then ending (c :: seen) rest (← next) else return (seen, false, some c)

/-- Looks for the end of a here-document where a line starts. -/
def atLineStart (e : Option Ending) (c : Option Char) : Reading (Option Char) := do
  match e with
  | none => return c
  | some e =>
    let c ← if e.stripTabs then
        loop (fun c => do
          if c = some '\t' then return .inl (← next) else return .inr c) c
      else pure c
    let (seen, whole, c) ← ending [] e.marker c
    if whole ∧ (c = some '\n' ∨ c = none) then
      newLine
      return none
    match seen.reverse ++ c.toList with
    | [] => return none
    | first :: rest =>
      modify fun r => { r with text := rest ++ r.text }
      return some first

/-- Reads a word or a here-document from its first byte on; says which byte came behind it. -/
def draft (inner : Inner) (e : Option Ending) (d : Draft) (c : Option Char) :
    Reading (Draft × Option Char) := do
  let following (d : Draft) : Reading (Option Char) :=
    if d.frame.mode = .single then next else nextJoined
  let marker := (← get).lookup.marker
  let mark (d : Draft) : Draft := if e.isNone then d.put .mark else d
  let toggle (d : Draft) : Draft :=
    mark (if d.frame.depth > 0 then d.change fun f => { f with inner := !f.inner } else d)
  let go (d : Draft) : Reading ((Draft × Option Char) ⊕ (Draft × Option Char)) := do
    return .inl (d, ← following d)
  loop (fun (d, c) => do
    match c with
    | none => return .inr (d, c)
    | some b =>
      let f := d.frame
      match f.mode.role b with
      | .newline =>
        if f.mode = .bare ∧ f.depth = 0 then return .inr (d, c)
        newLine
        let d := d.add b
        return .inl (d, ← atLineStart e (← following d))
      | .ordinary => go (d.add b)
      | .backslash => go (← backslash d e.isSome)
      | .singleQuote => go (mark (d.change ({ · with mode := .single })))
      | .doubleQuote => go (toggle (d.change ({ · with mode := .double, quoting := true })))
      | .endQuote =>
        if e.isSome ∧ f.depth = 0 then go (d.add b)
        else
          let d := if f.quotedDepth = 0 then
              d.change ({ · with mode := .bare, quoting := false })
            else d
          go (if b = '"' then toggle d else mark d)
      | .dollar => if marker then go (d.add b) else go (← dollar inner d)
      | .closeBrace => go d.closeBrace
      | .openParen => go ((d.add b).change ({ · with parens := f.parens + 1 }))
      | .closeParen =>
        if f.parens > 0 then go ((d.add b).change ({ · with parens := f.parens - 1 }))
        else
          let e ← nextJoined
          if e = some ')' then go d.pop.finish
          else
            back e
            go (d.add b)
      | .backquote =>
        if marker then go (d.add b)
        else
          let part ← substitution (within (← backquoted f.quoting) inner.toEnd)
          modify ({ · with again := false })
          go (d.put part)
      | .separator => if f.depth = 0 then return .inr (d, c) else go (d.add b))
    (d, ← atLineStart e c)

/-- The sign of a redirection behind its descriptor. -/
def redirection (c : Char) (digit : Option Nat) : Reading Token := do
  let e ← nextJoined
  if c = '>' then
    let fd := digit.getD 1
    match e with
    | some '>' => return .file fd .append
    | some '|' => return .file fd .clobber
    | some '&' => return .copy fd
    | _ =>
      back e
      return .file fd .output
  else
    let fd := digit.getD 0
    match e with
    | some '<' =>
      let e ← nextJoined
      if e = some '-' then return .document fd true
      back e
      return .document fd false
    | some '&' => return .copy fd
    | some '>' => return .file fd .both
    | _ =>
      back e
      return .file fd .input

/-- Reads a word, or a redirection with a digit in front of it. -/
def word (inner : Inner) (c : Option Char) : Reading Token := do
  let (d, c) ← draft inner none { frame := { mode := .bare } } c
  if d.frame.mode = .arithmetic then fail (α := Unit) "Missing '))'".toList
  if d.frame.mode ≠ .bare then fail (α := Unit) "Unterminated quoted string".toList
  if d.frame.depth > 0 then fail (α := Unit) "Missing '\x7d'".toList
  let digit : Option (Option Nat) := match d.parts with
    | [] => some none
    | [.plain b] => (Octets.digit? 10 b).map some
    | _ => none
  match c, digit with
  | some '<', some digit => found (← redirection '<' digit)
  | some '>', some digit => found (← redirection '>' digit)
  | _, _ =>
    back c
    modify ({ · with word := d.parts.reverse })
    found .word

/-- Reads a here-document. -/
def document (inner : Inner) (a : Awaited) : Reading Unit := do
  let frame : Frame :=
    if a.expands then { mode := .double, quoting := true } else { mode := .single }
  let first ← if a.expands then nextJoined else next
  let (d, _) ← draft inner (some ⟨a.marker, a.stripTabs⟩) { frame } first
  if d.frame.mode = .arithmetic then fail (α := Unit) "Missing '))'".toList
  if d.frame.depth > 0 then fail (α := Unit) "Missing '\x7d'".toList
  modify fun r => { r with documents := r.documents.setIfInBounds a.number d.parts.reverse }

/-- Reads the here-documents that start here. -/
def awaitedDocuments (inner : Inner) : Reading Unit := do
  let awaited := (← get).awaited
  modify ({ · with awaited := [] })
  awaited.forM (document inner)

/-- A sign that may be doubled. -/
def sign (c : Char) (single double : Token) : Reading Token := do
  let e ← nextJoined
  if e = some c then found double
  else
    back e
    found single

/-- The next token as it stands there. -/
def rawToken (inner : Inner) : Reading Token := do
  let r ← get
  if r.again then
    set { r with again := false }
    return r.token
  loop (fun (_ : Unit) => do
    let c ← nextJoined
    match c with
    | none => return .inr (← found .endOfFile)
    | some ' ' | some '\t' => return .inl ()
    | some '#' =>
      let c ← loop (fun (_ : Unit) => do
        let c ← next
        if c = none ∨ c = some '\n' then return .inr c else return .inl ()) ()
      back c
      return .inl ()
    | some '\n' =>
      newLine
      return .inr (← found .newline)
    | some '&' => return .inr (← sign '&' .ampersand .conjunction)
    | some '|' => return .inr (← sign '|' .bar .disjunction)
    | some ';' => return .inr (← sign ';' .semicolon .endOfCase)
    | some '(' => return .inr (← found .opening)
    | some ')' => return .inr (← found .closing)
    | _ => return .inr (← word inner c)) ()

/-- The next token, looked up as it was asked for. -/
def token (inner : Inner) : Reading Token := do
  let asked := (← get).lookup
  loop (fun (asked : Lookup) => do
    let t ← loop (fun (_ : Unit) => do
      let t ← rawToken inner
      if t = .newline ∧ asked.newlines then
        awaitedDocuments inner
        expect {}
        return .inl ()
      return .inr t) ()
    let also := (← get).lookup
    expect {}
    let asked := { asked with
      keywords := asked.keywords || also.keywords, aliases := asked.aliases || also.aliases }
    match t, (← get).word.plain? with
    | .word, some text =>
      if asked.keywords then
        if let some name := Token.keywords.find? (·.toList == text) then
          return .inr (← found (.keyword name))
      let r ← get
      match if asked.aliases then r.alias? text else none with
      | some value =>
        let blank := value.getLast?.any fun c => c == ' ' || c == '\t'
        modify fun r => { r with
          strips := ⟨text, blank, r.text, r.finished⟩ :: r.strips, text := value, finished := [] }
        return .inl asked
      | none => return .inr t
    | _, _ => return .inr t) asked

end Reading

end LineShell.Unix.Scripting
