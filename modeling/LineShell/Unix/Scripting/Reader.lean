import LineShell.Unix.Iterate
import LineShell.Unix.Scripting.Syntax

/-! Reading a script byte by byte. An alias is read by putting its text in front of what follows; it
is not looked up again until the byte behind its text has been read. -/

namespace LineShell.Unix.Scripting

/-- A word with a meaning of its own, or a sign. -/
inductive Token
  | endOfFile
  | newline
  | semicolon
  | ampersand
  | conjunction
  | disjunction
  | bar
  | opening
  | closing
  | endOfCase
  | word
  /-- A redirection of a descriptor; a here-document may have tabs to be stripped. -/
  | file (fd : Nat) (direction : Direction)
  | copy (fd : Nat)
  | document (fd : Nat) (stripTabs : Bool)
  | keyword (name : String)
  deriving DecidableEq, Repr

namespace Token

/-- A token as complaints show it. -/
def text : Token → Octets
  | endOfFile => "end of file".toList
  | newline => "newline".toList
  | semicolon => "\";\"".toList
  | ampersand => "\"&\"".toList
  | conjunction => "\"&&\"".toList
  | disjunction => "\"||\"".toList
  | bar => "\"|\"".toList
  | opening => "\"(\"".toList
  | closing => "\")\"".toList
  | endOfCase => "\";;\"".toList
  | word => "word".toList
  | file _ _ | copy _ | document _ _ => "redirection".toList
  | keyword name => '"' :: name.toList ++ ['"']

/-- The words that can be keywords. -/
def keywords : List String := [
  "!", "case", "do", "done", "elif", "else", "esac", "fi", "for", "if", "in", "then", "until",
  "while", "\x7b", "\x7d"]

/-- Whether a token ends the list of commands that it stands in. -/
def endsList : Token → Bool
  | endOfFile | closing | endOfCase => true
  | keyword name => ["do", "done", "elif", "else", "esac", "fi", "then", "\x7d"].contains name
  | _ => false

end Token

/-- What a word is looked up as. -/
structure Lookup where
  newlines : Bool := false
  keywords : Bool := false
  aliases : Bool := false
  /-- The word ends a here-document, and nothing in it is expanded. -/
  marker : Bool := false

/-- A text that stands in front of another in place of an alias. -/
structure Strip where
  name : Octets
  /-- A blank at the end makes the next word another alias. -/
  blank : Bool
  /-- The text behind it. -/
  behind : Octets
  /-- Aliases that had just come to their ends when this one was put in place. They stay in use as
  long as it does. -/
  held : List Octets

/-- A here-document that starts on the next line. -/
structure Awaited where
  number : Nat
  marker : Octets
  expands : Bool
  stripTabs : Bool

/-- A script while it is being read. -/
structure Reader where
  text : Octets
  line : Nat := 1
  strips : List Strip := []
  /-- Aliases whose texts have just come to their ends. -/
  finished : List Octets := []
  aliases : List (Octets × Octets) := []
  lookup : Lookup := {}
  /-- The last token. -/
  token : Token := .newline
  /-- The last token is to be read again. -/
  again : Bool := false
  /-- The last word. -/
  word : Word := []
  awaited : List Awaited := []
  /-- A byte was asked for where there was none any more. -/
  exhausted : Bool := false
  documents : Array Word := #[]

/-- Why a script cannot be read, with the line. -/
structure ReadError where
  line : Nat
  text : Octets
  /-- Some bytes more might have helped. -/
  exhausted : Bool
  /-- The end of the line is what cannot stand where it stands. -/
  atNewline : Bool

/-- Reading, which ends at the first error. -/
abbrev Reading := StateT Reader (Except ReadError)

namespace Reader

/-- Takes the next byte, out of the texts of aliases as long as there are any. -/
def takeFrom (r : Reader) : Octets → List Strip → Option Char × Reader
  | c :: text, strips => (some c, { r with text, strips })
  | [], [] => (none, { r with text := [], strips := [], exhausted := true })
  | [], s :: strips =>
    let lookup := if s.blank then { r.lookup with aliases := true } else r.lookup
    { r with lookup, finished := s.name :: s.held ++ r.finished }.takeFrom s.behind strips

/-- What is still to be read of the script itself. -/
def remaining (r : Reader) : Octets := (r.strips.getLast?).elim r.text (·.behind)

/-- The reader of a script with more bytes at its end. -/
def extend (r : Reader) (bytes : Octets) : Reader :=
  match r.strips.getLast? with
  | none => { r with text := r.text ++ bytes }
  | some s => { r with strips := r.strips.dropLast ++ [{ s with behind := s.behind ++ bytes }] }

/-- The text of an alias that may be used now. -/
def alias? (r : Reader) (name : Octets) : Option Octets :=
  let inUse := r.finished ++ r.strips.flatMap fun s => s.name :: s.held
  if inUse.contains name then none
  else r.aliases.lookup name

end Reader

namespace Reading

/-- Stops with an error. -/
def fail {α : Type} (text : Octets) : Reading α := fun r =>
  .error ⟨r.line, "Syntax error: ".toList ++ text, r.exhausted, r.token == .newline⟩

/-- Repeats a step of reading until it has an answer. -/
def loop {σ α : Type} (step : σ → Reading (σ ⊕ α)) (start : σ) : Reading α :=
  iterate (fail "too long".toList) step maxSteps start

/-- The next byte. -/
def next : Reading (Option Char) := fun r =>
  .ok ({ r with finished := [] }.takeFrom r.text r.strips)

/-- Puts a byte back. -/
def back (c : Option Char) : Reading Unit :=
  modify fun r => { r with text := c.toList ++ r.text }

/-- Counts a line. -/
def newLine : Reading Unit := modify fun r => { r with line := r.line + 1 }

/-- The next byte after lines that end in a backslash have been joined. -/
def nextJoined : Reading (Option Char) :=
  loop (fun (_ : Unit) => do
    let c ← next
    if c = some '\\' then
      let d ← next
      if d = some '\n' then
        newLine
        return .inl ()
      back d
    return .inr c) ()

/-- Stops at a token that cannot stand here, perhaps in the place of another. -/
def unexpected {α : Type} (expected : Option Token := none) : Reading α := do
  let text := (← get).token.text ++ " unexpected".toList
  match expected with
  | some t => fail (text ++ " (expecting ".toList ++ t.text ++ [')'])
  | none => fail text

/-- Lets the last token be read again. -/
def again : Reading Unit := modify ({ · with again := true })

/-- Says how the next token is looked up. -/
def expect (lookup : Lookup) : Reading Unit := modify ({ · with lookup })

/-- Makes a token the last one. -/
def found (token : Token) : Reading Token := do
  modify ({ · with token })
  return token

end Reading

end LineShell.Unix.Scripting
