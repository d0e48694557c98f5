import LineShell.Unix.Scripting.Lexer

/-! Commands. The first token that fits no rule is an error, in which the token is named and, where
only one could have stood there, that one too. -/

namespace LineShell.Unix.Scripting

/-- The builtins that functions cannot replace, and whose errors end a script. -/
def specialBuiltins : List String := [
  ".", ":", "break", "continue", "eval", "exec", "exit", "export", "local", "readonly", "return",
  "set", "shift", "times", "trap", "unset"]

/-- Where a list of commands stands. -/
inductive Place
  /-- At the top, where it ends with the line. -/
  | line
  /-- In a compound command, which it cannot leave empty. -/
  | compound
  /-- Where it may be empty. -/
  | optional
  deriving DecidableEq

namespace Reading

/-- The words that are looked up where a command starts. -/
def atCommand : Lookup := { newlines := true, keywords := true, aliases := true }

/-- Takes a token that must come. -/
def require (inner : Inner) (t : Token) : Reading Unit := do
  if (← token inner) ≠ t then unexpected t

/-- Takes a token that must come, after some lookup. -/
def requireAfter (inner : Inner) (lookup : Lookup) (t : Token) : Reading Unit := do
  expect lookup
  require inner t

/-- The bytes of the last word, if it is a name. -/
def wordName? : Reading (Option Octets) := do
  return (← get).word.plain?.filter isName

/-- Reads what a redirection leads to. -/
def redirect (inner : Inner) (t : Token) : Reading (List Redirect) := do
  match t with
  | .document fd stripTabs =>
    expect { marker := true }
    if (← token inner) ≠ .word then unexpected
    let r ← get
    let marker := r.word.filterMap fun
      | .plain c | .quoted c => some c
      | _ => none
    let number := r.documents.size
    let awaited := r.awaited ++ [⟨number, marker, r.word.plain?.isSome, stripTabs⟩]
    set { r with awaited, documents := r.documents.push [] }
    return [.document fd number]
  | _ =>
    if (← token inner) ≠ .word then unexpected
    let w := (← get).word
    return match t with
      | .file fd direction => [.file fd direction w]
      | .copy fd => [.copy fd w]
      | _ => []

/-- Whether a token starts a redirection. -/
def isRedirect : Token → Bool
  | .file _ _ | .copy _ | .document _ _ => true
  | _ => false

/-- Reads redirections behind a compound command. -/
def redirects (inner : Inner) : Reading (List Redirect) := do
  expect { keywords := true, aliases := true }
  loop (fun all => do
    let t ← token inner
    if isRedirect t then return .inl (all ++ (← redirect inner t))
    again
    return .inr all) []

/-- Reads words for as long as there are any. -/
def words (inner : Inner) : Reading (List Word) :=
  loop (fun all => do
    if (← token inner) = .word then return .inl (all ++ [(← get).word]) else return .inr all) []

/-- A command that runs on while others are run. -/
def inBackground : Command → Command
  | .pipeline commands _ => .pipeline commands true
  | .redirected line command redirects => .background line command redirects
  | command => .background 0 command []

/-- What a simple command consists of so far. -/
structure Simple where
  assignments : List Word := []
  words : List Word := []
  redirects : List Redirect := []

/-- Reads a simple command or the definition of a function. -/
def simple (inner : Inner) (body : Reading Command) : Reading Command := do
  let line := (← get).line
  loop (fun s => do
    expect { aliases := s.words.isEmpty }
    let t ← token inner
    let w := (← get).word
    if t = .word then
      if s.words.isEmpty ∧ w.isAssignment then
        return .inl { s with assignments := s.assignments ++ [w] }
      else return .inl { s with words := s.words ++ [w] }
    else if isRedirect t then
      return .inl { s with redirects := s.redirects ++ (← redirect inner t) }
    else
      match t, s with
      | .opening, ⟨[], [name], []⟩ =>
        require inner .closing
        match name.plain?.filter fun n => isName n && !specialBuiltins.any (·.toList == n) with
        | none => fail "Bad function name".toList
        | some n =>
          expect atCommand
          let line := (← get).line
          return .inr (.function line n (← body))
      | _, _ =>
        again
        return .inr (.simple line s.assignments s.words s.redirects)) ({} : Simple)

/-- Puts redirections behind a compound command. -/
def withRedirects (line : Nat) (command : Command) : List Redirect → Command
  | [] => command
  | all =>
    match command with
    | .subshell line command _ => .subshell line command all
    | _ => .redirected line command all

/-- Reads commands with whatever reads the commands inside of them. -/
structure Grammar where
  inner : Inner
  list : Place → Reading (Option Command)

namespace Grammar

/-- Reads a list that cannot be empty, in front of a token. -/
def block (g : Grammar) (behind : Token) : Reading Command := do
  match ← g.list .compound with
  | some c => return c
  | none =>
    require g.inner behind
    unexpected

/-- Reads the rest of a conditional command. -/
def conditional (g : Grammar) : Nat → Reading Command
  | 0 => unexpected
  | limit + 1 => do
    let test ← g.block (.keyword "then")
    require g.inner (.keyword "then")
    let yes ← g.block (.keyword "fi")
    match ← token g.inner with
    | .keyword "elif" => return .conditional test yes (some (← g.conditional limit))
    | .keyword "else" => return .conditional test yes (some (← g.block (.keyword "fi")))
    | _ =>
      again
      return .conditional test yes none

/-- Reads the rest of a loop over words. -/
def each (g : Grammar) (line : Nat) : Reading Command := do
  if (← token g.inner) ≠ .word then fail (α := Unit) "Bad for loop variable".toList
  let some name ← wordName? | fail "Bad for loop variable".toList
  expect atCommand
  let t ← token g.inner
  let all ← if t = .keyword "in" then
      let all ← words g.inner
      let behind := (← get).token
      if behind ≠ .newline ∧ behind ≠ .semicolon then unexpected (α := Unit)
      pure all
    else
      if t ≠ .semicolon then again
      pure [[.mark, .parameter ['@'] .value false [], .mark]]
  requireAfter g.inner atCommand (.keyword "do")
  return .each line name all (← g.block (.keyword "done"))

/-- Reads the patterns of a case, from the first one on. -/
def patterns (g : Grammar) : Reading (List Word) :=
  loop (fun all => do
    let all := all ++ [(← get).word]
    let t ← token g.inner
    if t = .bar then
      discard <| token g.inner
      return .inl all
    if t ≠ .closing then unexpected (α := Unit) (some .closing)
    return .inr all) []

/-- Reads the rest of a choice between cases. -/
def select (g : Grammar) (line : Nat) : Reading Command := do
  require g.inner .word
  let w := (← get).word
  requireAfter g.inner atCommand (.keyword "in")
  let cases ← loop (fun cases => do
    expect { newlines := true, keywords := true }
    let t ← token g.inner
    if t = .keyword "esac" then return .inr cases
    if t = .opening then discard <| token g.inner
    let patterns ← g.patterns
    let cases := cases ++ [(patterns, ← g.list .optional)]
    expect { newlines := true, keywords := true }
    let t ← token g.inner
    if t = .keyword "esac" then return .inr cases
    if t ≠ .endOfCase then unexpected (α := Unit) (some .endOfCase)
    return .inl cases) []
  return .select line w cases

/-- Reads a command that is no pipeline. -/
def command (g : Grammar) (self : Reading Command) : Reading Command := do
  let line := (← get).line
  let t ← token g.inner
  let close (t : Token) (c : Command) : Reading Command := do
    require g.inner t
    return withRedirects line c (← redirects g.inner)
  match t with
  | .keyword "if" => close (.keyword "fi") (← g.conditional maxSteps)
  | .keyword "while" | .keyword "until" =>
    let test ← g.block (.keyword "do")
    require g.inner (.keyword "do")
    close (.keyword "done") (.loop (t == .keyword "while") test (← g.block (.keyword "done")))
  | .keyword "for" => close (.keyword "done") (← g.each line)
  | .keyword "case" =>
    let c ← g.select line
    return withRedirects line c (← redirects g.inner)
  | .opening => close .closing (.subshell line (← g.block .closing) [])
  | .keyword "\x7b" => close (.keyword "\x7d") (← g.block (.keyword "\x7d"))
  | .word | .file _ _ | .copy _ | .document _ _ =>
    again
    simple g.inner self
  | _ => unexpected

/-- Reads commands with bars between them. -/
def pipeline (g : Grammar) (self : Reading Command) : Reading Command := do
  let negated := (← token g.inner) = .keyword "!"
  if negated then expect { keywords := true, aliases := true } else again
  let first ← g.command self
  let all ← loop (fun all => do
    if (← token g.inner) = .bar then
      expect atCommand
      return .inl (all ++ [← g.command self])
    again
    return .inr all) [first]
  let c := match all with
    | [c] => c
    | _ => .pipeline all false
  return if negated then .negation c else c

/-- Reads pipelines of which each depends on how those before it ended. -/
def chain (g : Grammar) (self : Reading Command) : Reading Command := do
  loop (fun c => do
    let t ← token g.inner
    if t = .conjunction ∨ t = .disjunction then
      expect atCommand
      let next ← g.pipeline self
      return .inl (if t = .conjunction then .conjunction c next else .disjunction c next)
    again
    return .inr c) (← g.pipeline self)

/-- Reads a list of commands. -/
def commands (g : Grammar) (self : Reading Command) (place : Place) : Reading (Option Command) :=
  loop (fun before => do
    expect { atCommand with newlines := place != .line }
    let t ← token g.inner
    match t with
    | .newline =>
      awaitedDocuments g.inner
      return .inr before
    | .endOfFile =>
      awaitedDocuments g.inner
      again
      return .inr before
    | _ =>
      again
      if (place = .optional ∨ place = .compound ∧ before.isSome) ∧ t.endsList then
        return .inr before
      let c ← g.chain self
      let t ← token g.inner
      let c := if t = .ampersand then inBackground c else c
      let all := match before with
        | none => c
        | some b => .sequence b c
      match t with
      | .newline | .endOfFile =>
        again
        return .inl (some all)
      | .ampersand | .semicolon => return .inl (some all)
      | _ =>
        if place = .line then unexpected (α := Unit)
        again
        return .inr (some all)) none

end Grammar

mutual

/-- Reads a list of commands, nested in at most so many others. -/
def list : Nat → Place → Reading (Option Command)
  | 0, _ => fail "too deep".toList
  | depth + 1, place =>
    let g : Grammar := ⟨inner depth, list depth⟩
    g.commands (command depth) place

/-- Reads a command, nested in at most so many others. -/
def command : Nat → Reading Command
  | 0 => fail "too deep".toList
  | depth + 1 =>
    let g : Grammar := ⟨inner depth, list depth⟩
    g.command (command depth)

/-- How to read commands inside words. -/
def inner : Nat → Inner
  | 0 => ⟨fail "too deep".toList, fail "too deep".toList⟩
  | depth + 1 => {
    toEnd := list depth .optional
    toParen := do
      let body ← list depth .optional
      require (inner depth) .closing
      within [] (awaitedDocuments (inner depth))
      return body }

end

/-- The deepest nesting of commands. -/
def maxNesting : Nat := 10000

/-- Reads the next command of a script; the command is missing in an empty line, and there is none
at the end. -/
def complete : Reading (Option (Option Command)) := do
  modify fun r => { r with again := false, lookup := {}, awaited := [] }
  let c ← list maxNesting .line
  let r ← get
  return if c.isNone ∧ r.again then none else some c

end Reading

end LineShell.Unix.Scripting
