import LineShell.Unix.Scripting.Expansion

/-! Redirections: words are expanded first, then descriptors are changed one after the other, and
afterwards those that were changed are put back. -/

namespace LineShell.Unix.Scripting

/-- A redirection whose words have been expanded. -/
inductive Rewiring
  | file (fd : Nat) (direction : Direction) (path : Octets)
  /-- From another descriptor, or from nowhere. -/
  | copy (fd : Nat) (source : Option Nat)
  | document (fd : Nat) (text : Word)

namespace Rewiring

/-- The descriptor that is changed. -/
def target : Rewiring → Nat
  | file fd _ _ | copy fd _ | document fd _ => fd

end Rewiring

namespace Run

/-- Expands the word of a redirection. -/
def rewiring (output : Option Command → Run Octets) : Redirect → Run Rewiring
  | .file fd direction name => return .file fd direction (← expandText output name)
  | .document fd number => return .document fd ((← state).documents.getD number [])
  | .copy fd source => do
    match ← expandText output source with
    | ['-'] => return .copy fd none
    | text =>
      match text with
      | [c] =>
        if let some n := Octets.digit? 10 c then return .copy fd (some n)
      | _ => pure ()
      update fun s => { s with line := s.readLine }
      fail "Syntax error: Bad fd number".toList

/-- Lets a descriptor lead somewhere else. -/
def connect (fd : Nat) (index : Option Nat) : Run Unit :=
  ask fun p => Machine.connect p.pid fd index

/-- Complains that a file cannot be opened. -/
def cannotOpen {α : Type} (creates : Bool) (path : Octets) (e : Reason) : Run α :=
  let (verb, missing) :=
    if creates then ("create ", "Directory nonexistent") else ("open ", "No such file")
  let reason := if e = .noEntry ∨ e = .notDirectory then missing.toList else e.text
  fail ("cannot ".toList ++ verb.toList ++ path ++ ": ".toList ++ reason)

/-- How a file is opened for a redirection. -/
def openMode : Direction → OpenMode
  | .input => { reads := true }
  | .output | .clobber => { writes := true, creates := true, truncates := true }
  | .append => { writes := true, creates := true, appends := true }
  | .both => { reads := true, writes := true, creates := true }

/-- Opens the file of a redirection. -/
def openFor (direction : Direction) (path : Octets) : Run Nat := do
  let kept := direction = .output ∧ (← isOn "noclobber")
  let mode : OpenMode ←
    if !kept then pure (openMode direction)
    else
      match ← ask (·.stat path) with
      | .error _ => pure { writes := true, creates := true, exclusive := true }
      | .ok facts =>
        if facts.kind = .regular then cannotOpen true path .fileExists
        pure { writes := true }
  match ← ask (·.openPath path mode) with
  | .ok index => return index
  | .error e => cannotOpen mode.creates path e

/-- Carries out a redirection. -/
def rewire (output : Option Command → Run Octets) : Rewiring → Run Unit
  | .file fd direction path => do connect fd (some (← openFor direction path))
  | .copy fd none => connect fd none
  | .copy fd (some n) => do
    if fd ≠ n then
      match ← ask (·.description? n) with
      | some (index, _) => connect fd (some index)
      | none => fail (Text.ofNat n ++ ": ".toList ++ Reason.badDescriptor.text)
  | .document fd text => do
    let text ← expandDocument output text
    connect fd (some (← ask fun _ => Machine.pipe text).1)

/-- Descriptors with those that keep what was open under them, if something was. -/
abbrev Kept := List (Nat × Option Nat)

/-- Keeps what is open under descriptors that are about to be changed. -/
def setAside (fds : List Nat) : Run Kept :=
  fds.eraseDups.mapM fun fd => do
    match ← ask (·.description? fd) with
    | some (index, _) => return (fd, some (← ask fun p => Machine.keep p.pid index))
    | none => return (fd, none)

/-- Closes what was kept. -/
def release (kept : Kept) : Run Unit :=
  kept.forM fun (_, place) => place.forM fun place => connect place none

/-- Lets descriptors lead back to where they led. -/
def putBack (kept : Kept) : Run Unit := do
  for (fd, place) in kept do
    let index ← place.mapM fun place => ask (·.description? place)
    connect fd (index.join.map (·.1))
  release kept

/-- Carries out redirections. An error stops them, and is the answer. -/
def rewireAll (output : Option Command → Run Octets) (all : List Rewiring) : Run Bool := do
  tryCatch (do
    all.forM (rewire output)
    return true) fun
    | .error => return false
    | reason => throw reason

end Run

end LineShell.Unix.Scripting
