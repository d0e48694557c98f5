import LineShell.Unix.Octets

/-! What scripts are made of. A word is a list of parts. Quotation marks stay in it until it has
been expanded, because an empty word is an argument only if it was quoted. -/

namespace LineShell.Unix.Scripting

/-- What is done with the value of a parameter. -/
inductive Use
  /-- `${x}` -/
  | value
  /-- `${#x}` -/
  | size
  /-- `${x-w}` -/
  | orElse
  /-- `${x+w}` -/
  | instead
  /-- `${x?w}` -/
  | demand
  /-- `${x=w}` -/
  | assign
  /-- `${x#w}`, `${x##w}`, `${x%w}` and `${x%%w}` -/
  | trim (suffix longest : Bool)
  /-- Something else, which is an error once it is expanded. -/
  | unknown
  deriving DecidableEq, Repr

/-- Where a redirection leads. -/
inductive Direction
  | input
  | output
  /-- Output that may replace a file whatever the options say. -/
  | clobber
  | append
  | both
  deriving DecidableEq, Repr

mutual

/-- A part of a word. -/
inductive Part
  | plain (c : Char)
  /-- A byte that stands for itself. -/
  | quoted (c : Char)
  /-- A quotation mark: what follows is inside quotes, or outside again. -/
  | mark
  /-- A parameter; in some uses one whose value is empty counts as one that is not set. -/
  | parameter (name : Octets) (use : Use) (orEmpty : Bool) (word : List Part)
  | arithmetic (expression : List Part)
  /-- The output of a command. -/
  | command (body : Option Command)

/-- A change of what is open. -/
inductive Redirect
  | file (fd : Nat) (direction : Direction) (name : List Part)
  | copy (fd : Nat) (source : List Part)
  /-- A text from the script, by number. -/
  | document (fd : Nat) (number : Nat)

/-- A command, in places with the line that it starts in. -/
inductive Command
  | simple (line : Nat) (assignments words : List (List Part)) (redirects : List Redirect)
  | pipeline (commands : List Command) (background : Bool)
  | negation (command : Command)
  | redirected (line : Nat) (command : Command) (redirects : List Redirect)
  | background (line : Nat) (command : Command) (redirects : List Redirect)
  | subshell (line : Nat) (command : Command) (redirects : List Redirect)
  | conjunction (first second : Command)
  | disjunction (first second : Command)
  | sequence (first second : Command)
  | conditional (test yes : Command) (no : Option Command)
  /-- Repeats its body as long as the test says so. -/
  | loop (whileSucceeds : Bool) (test body : Command)
  | each (line : Nat) (name : Octets) (words : List (List Part)) (body : Command)
  | select (line : Nat) (word : List Part) (cases : List (List (List Part) × Option Command))
  | function (line : Nat) (name : Octets) (body : Command)

end

/-- A word. -/
abbrev Word := List Part

namespace Word

/-- The bytes of a word that is nothing but plain bytes. -/
def plain? (w : Word) : Option Octets := w.mapM fun
  | .plain c => some c
  | _ => none

end Word

/-- A byte that can start a name. -/
def isNameStart (c : Char) : Bool := Octets.isLetter c || c == '_'

/-- A byte of a name. -/
def isNameByte (c : Char) : Bool := isNameStart c || Octets.isDigit c

/-- The name at the start of a text, and what follows it. -/
def nameIn (text : Octets) : Octets × Octets :=
  if text.head?.any isNameStart then text.span isNameByte else ([], text)

/-- Whether a text is a name. -/
def isName (text : Octets) : Bool := text != [] && (nameIn text).2 == []

/-- Whether a word starts like an assignment. -/
def Word.isAssignment (w : Word) : Bool :=
  let front := w.map fun
    | .plain c => c
    | _ => '\x00'
  let (name, rest) := nameIn front
  name != [] && rest.head? == some '='

end LineShell.Unix.Scripting
