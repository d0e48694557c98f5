import LineShell.Unix.Scripting.Builtins
import LineShell.Unix.Scripting.Redirection

/-! Running commands. The commands inside of a command, and other programs, are run by whatever is
given for that; in the end that is the evaluator itself with a smaller depth left. A copy of a shell
runs beside it, and the shell waits for it or goes on. -/

namespace LineShell.Unix.Scripting

/-- What is known about a command from where it stands. -/
structure Flags where
  /-- It is the last one, and the shell exits behind it. -/
  final : Bool := false
  /-- Its failure is looked at and ends nothing. -/
  tested : Bool := false

/-- How to run commands and programs. -/
structure Evaluator where
  run : Command → Flags → Run Nat
  start : Starter

namespace Run

/-- Repeats a step until it has an answer. -/
def repeating {σ α : Type} (start : σ) (step : σ → Run (σ ⊕ α)) : Run α :=
  iterate (throw (.killed 24)) step maxSteps start

/-- What comes of reading a command: none at the end, and an empty one in an empty line. -/
abbrev Reading.Outcome := Except ReadError (Option (Option Command) × Reader)

/-- Tries to read the next command of a script. -/
def parse (r : Reader) : Run Reading.Outcome := do
  let s ← state
  return Reading.complete.run
    { r with aliases := s.aliases, documents := s.documents, exhausted := false }

/-- Takes over a command that was read. -/
def accept : Reading.Outcome → Run (Option (Option Command) × Reader)
  | .error e => do
    update ({ · with line := e.line })
    fail e.text
  | .ok (c, r) => do
    update ({ · with documents := r.documents, readLine := r.line })
    return (c, r)

/-- A script that is read as it is needed. -/
structure Source where
  /-- Where it is read from. -/
  fd : Nat
  reader : Reader := { text := [] }
  /-- All of it has been read. -/
  ended : Bool := false

/-- The number of bytes of a script that are read at once. -/
def scriptBlock : Nat := 8191

/-- The number of lines that were read only because a command did not end before them. -/
def furtherLines (start : Nat) : Reading.Outcome → Nat
  | .error e => e.line - start - if e.atNewline && !e.exhausted then 1 else 0
  | .ok (_, r) => r.line - start - if r.exhausted then 0 else 1

/-- Reads the next command of a script, and more of the script if that is necessary. Something may
be done before each further line. -/
def readFrom (source : Source) (further : Run Unit := pure ()) :
    Run (Option (Option Command) × Source) :=
  repeating source fun source => do
    let outcome ← parse source.reader
    let exhausted := match outcome with
      | .error e => e.exhausted
      | .ok (_, r) => r.exhausted
    if exhausted && !source.ended then
      let bytes := (← take source.fd scriptBlock).toOption.getD []
      if bytes = [] then return .inl { source with ended := true }
      else
        let reader := source.reader.extend (bytes.filter (· ≠ '\x00'))
        return .inl { source with reader }
    for _ in List.range (furtherLines source.reader.line outcome) do
      further
    let (c, reader) ← accept outcome
    if ← isOn "verbose" then
      let before := source.reader.remaining
      tell (before.take (before.length - reader.remaining.length))
    return .inr (c, { source with reader })

/-- Runs the commands of a text. -/
def runText (ev : Evaluator) (text : Octets) (tested : Bool := false) : Run Nat :=
  repeating (({ text } : Reader), 0) fun (r, status) => do
    match ← accept (← parse r) with
    | (none, _) => return .inr status
    | (some none, r) => return .inl (r, status)
    | (some (some c), r) =>
      let status ← ev.run c { tested }
      if (← state).skip ≠ .nothing then return .inr status
      return .inl (r, status)

/-- Runs the commands of a file. -/
def runFile (ev : Evaluator) (fd : Nat) : Run Nat :=
  repeating (({ fd } : Source), 0) fun (source, status) => do
    let (c, source) ← readFrom source
    match c with
    | none => return .inr status
    | some none => return .inl (source, status)
    | some (some c) =>
      let status ← ev.run c {}
      match (← state).skip with
      | .nothing => return .inl (source, status)
      | .function _ =>
        update ({ · with skip := .nothing })
        return .inr status
      | _ => return .inr status

/-- Runs the traps of those signals out of some that have come, unless commands are passed over. -/
def runTrapsOf (ev : Evaluator) (status : Nat) : List Nat → Run Unit
  | [] => return
  | n :: rest => do
    let s ← state
    if s.caught.contains n then
      if s.skip ≠ .nothing then
        update ({ · with pending := some n })
        return
      update ({ · with caught := s.caught.filter (· ≠ n) })
      if let some action := s.traps.lookup n then
        discard <| runText ev action
        if (← state).skip ≠ .function true then update ({ · with status })
    runTrapsOf ev status rest

/-- Runs the traps of the signals that have come since somebody looked at them. -/
def runTraps (ev : Evaluator) : Run Unit := do
  receiveAll
  let s ← state
  if s.pending.isSome then
    let status := s.savedStatus.getD s.status
    update ({ · with savedStatus := some status, pending := none })
    runTrapsOf ev status ((List.range Signals.last).map (· + 1))
    update ({ · with savedStatus := s.savedStatus })

/-- What a shell goes back to when it is about to exit. -/
def reset (exits : Bool) (s : State) : State :=
  let status := match s.savedStatus with
    | some n => if exits || s.skip = .function false then n else s.status
    | none => s.status
  { s with status, savedStatus := none, skip := .nothing, loops := 0 }

/-- Runs a shell to its end: its work, and then the trap for the end. -/
def conclude (ev : Evaluator) (work : Run Unit) : StateT State Task ExitStatus := do
  let after (outcome : Except Stop Unit) : StateT State Task (Option ExitStatus) := do
    match outcome with
    | .error (.killed n) => return some (.signal n false)
    | .error (.replaced status) => return some status
    | .error reason =>
      modify (reset (reason == .exit))
      return none
    | .ok () => return none
  let last : Run Unit := do
    let s ← state
    update ({ · with savedStatus := some s.status })
    if let some action := s.traps.lookup 0 then
      update fun s => { s with traps := s.traps.filter (·.1 ≠ 0), skip := .nothing }
      discard <| runText ev action
      update ({ · with skip := .function false })
  match ← after (← work.run) with
  | some status => return status
  | none =>
    match ← after (← (do last; flush : Run Unit).run) with
    | some status => return status
    | none =>
      modify (reset false)
      return .code ((← get).status % 256)

/-- Whether there are traps that do something. -/
def hasTraps : Run Bool := return (← state).traps.any (·.2 ≠ [])

/-- The signals that traps make ineffective. -/
def silenced (s : State) : List Nat :=
  s.self.ignored ++ (s.traps.filter fun t => t.2 = [] ∧ t.1 ≠ 0).map (·.1)

/-- Starts a copy of the shell that does some work, with some descriptors leading elsewhere. -/
def fork (ev : Evaluator) (background : Bool) (wires : List (Nat × Option Nat)) (work : Run Unit) :
    Run Nat := do
  let s ← state
  let pid ← ask fun p => Machine.copyProcess p.pid wires
  let ignored := silenced s ++ if background then [2, 3] else []
  let child := { s with
    self := { s.self with pid, parent := s.self.pid, ignored }
    traps := s.traps.filter (·.2 = [])
    caught := []
    pending := none
    worked := 0
    jobs := [] }
  liftM <| Task.spawn do
    let status ← (conclude ev work).run' child
    Task.ask (Machine.finish pid status)
  return pid

/-- The output of a command. -/
def output (ev : Evaluator) : Option Command → Run Octets
  | none => return []
  | some c => do
    let (source, sink) ← ask fun _ => Machine.pipe
    discard newJob
    let pid ← fork ev false [(1, some sink)] (discard <| ev.run c { final := true })
    let fd ← ask fun p => Machine.keep p.pid source
    let bytes ← (← state).self.readAll fd receiveAll
    connect fd none
    let n ← waitFor [pid]
    update ({ · with outputStatus := n })
    return bytes.toOption.getD []

/-- Says where the script is. -/
def atLine (line : Nat) : Run Unit := update ({ · with line })

/-- The part of a file that is looked at to see whether it is a script. -/
def sampleSize : Nat := 128

/-- Whether a file is not a script: its first line holds control characters other than those that
move on a page. -/
def isBinary (contents : Octets) : Bool :=
  ((contents.take sampleSize).takeWhile (· ≠ '\n')).any fun c =>
    c.toNat < 9 || 16 ≤ c.toNat && c.toNat < 32 && c.toNat ≠ 27 || c.toNat = 127

/-- The beginning of a file. -/
def sample (path : Octets) : Run Octets := do
  match ← ask (·.openPath path { reads := true }) with
  | .error _ => return []
  | .ok index =>
    let fd ← ask fun p => Machine.keep p.pid index
    let bytes ← take fd sampleSize
    connect fd none
    return bytes.toOption.getD []

/-- Takes the place of the shell by a program, looked for at some paths in turn. -/
def launch (ev : Evaluator) (name : Octets) (args : List Octets) (paths : List Octets) :
    Run Unit := do
  let s ← state
  let process : Process := { s.self with
    name, args, environment := s.environment, ignored := silenced s }
  let start (p : Process) (path : Octets) : Run (Except Reason ExitStatus) :=
    liftM (ev.start p path)
  let step (reason : Reason) (path : Octets) : Run Reason := do
    let answer ← match ← start process path with
      | .error .execFormat =>
        if isBinary (← sample path) then pure (.error .execFormat)
        else
          let shell := "/bin/sh".toList
          start { process with name := shell, args := path :: args } shell
      | answer => pure answer
    match answer with
    | .ok status => throw (.replaced status)
    | .error .noEntry | .error .notDirectory => return reason
    | .error e => return e
  let reason ← paths.foldlM step .noEntry
  let status := match reason with
    | .tooManyLinks | .nameTooLong | .noEntry | .notDirectory => 127
    | _ => 126
  stop .done status (name ++ ": ".toList ++ reasonText reason)

/-- The paths at which a program is looked for. -/
def pathsFor (path name : Octets) : List Octets :=
  if '/' ∈ name then [name] else candidates path name

/-- Runs a function. -/
def call (ev : Evaluator) (f : Function) (args : List Octets) (fl : Flags) : Run Nat := do
  let s ← state
  if s.depth ≥ 1000 then
    fail (α := Unit) "Maximum function recursion depth (1000) reached".toList
  update ({ · with params := args, getopts := {}, loops := 0, depth := s.depth + 1 })
  always (ev.run f.body { tested := fl.tested }) <| update fun now => { now with
    params := s.params
    getopts := s.getopts
    loops := s.loops
    depth := s.depth
    skip := match now.skip with
      | .function _ => .nothing
      | skip => skip }

/-- Finds a script that is run by the shell itself. -/
def findSource (name : Octets) : Run Octets := do
  if '/' ∈ name then return name
  let paths := candidates (← state).path name
  let isFile (path : Octets) : Run Bool := do
    match ← ask (·.stat path) with
    | .ok facts => return facts.kind == .regular
    | .error _ => return false
  match ← paths.findM? isFile with
  | some path => return path
  | none => fail (name ++ ": not found".toList)

/-- Opens a script. -/
def openScript (path : Octets) : Run Nat := do
  match ← ask (·.openPath path { reads := true }) with
  | .error e => cannotOpen false path e
  | .ok index => ask fun p => Machine.keep p.pid index

/-- Where programs are looked for if the script is not to be asked. -/
def standardPath : Octets := "/usr/bin:/bin:/usr/sbin:/sbin".toList

/-- Runs a builtin. -/
def internal (ev : Evaluator) (fl : Flags) (b : Internal) (args : List Octets) : Run Nat := do
  match b with
  | .simple run => run args
  | .command =>
    let (options, names) ← Builtin.options [('p', false), ('v', false), ('V', false)] [] args
    let asks (c : Char) : Bool := options.any (·.1 == c)
    match names with
    | name :: _ =>
      if asks 'v' || asks 'V' then
        describe (asks 'V') (if asks 'p' then some standardPath else none) name
      else return 0
    | [] => return 0
  | .eval =>
    if args = [] then return 0
    else runText ev ([' '].intercalate args) fl.tested
  | .exec =>
    match args with
    | name :: args => launch ev name args (pathsFor (← state).path name)
    | [] => pure ()
    return 0
  | .source =>
    match ← Builtin.operands args with
    | name :: _ =>
      let path ← findSource name
      let fd ← openScript path
      update ({ · with builtin := some path })
      always (runFile ev fd) (connect fd none)
    | [] => return 0
  | .hash => hash args
  | .describe =>
    args.foldlM (fun status name => return status ||| (← describe true none name)) 0

/-- Runs a builtin under its name. Errors in builtins that are not special are overcome. -/
def callInternal (ev : Evaluator) (fl : Flags) (special : Bool) (name : Octets) (b : Internal)
    (args : List Octets) : Run Nat := do
  let before := (← state).builtin
  update ({ · with builtin := some name })
  let clean : Run Unit := update ({ · with printed := [], lost := false, builtin := before })
  let work : Run Unit := do
    let status ← internal ev fl b args
    flush
    let lost := (← state).lost
    if lost then warn (name ++ ": I/O error".toList)
    update ({ · with status := if lost then status ||| 1 else status })
  tryCatch work fun reason => do
    clean
    if reason ≠ .error ∨ special then throw reason
  clean
  return (← state).status

/-- The words of a simple command as far as they have been expanded. -/
structure Words where
  /-- All words, as they are traced. -/
  all : List Octets := []
  /-- The words behind `command`. -/
  args : List Octets := []
  rest : List Word
  functions : Bool := true
  path : Option Octets := none
  /-- Whether the first word names a special builtin. -/
  special : Option Bool := none

/-- Expands words until there is one more argument. -/
def expandMore (ev : Evaluator) (w : Words) : List Word → Run (Option Words)
  | [] => return none
  | word :: rest => do
    match ← expandFields (output ev) word with
    | [] => expandMore ev w rest
    | more => return some { w with all := w.all ++ more, args := w.args ++ more, rest }

/-- The words with one more argument behind the first one, if there is one. -/
def secondWord (ev : Evaluator) (w : Words) : Run (Option Words) :=
  match w.args with
  | _ :: _ :: _ => return some w
  | _ => expandMore ev w w.rest

/-- Takes `command` and its options off; there is no answer if they ask for something else. -/
def unwrap (ev : Evaluator) (w : Words) : Run (Option Words) :=
  repeating w fun w => do
    match ← secondWord ev w with
    | none => return .inr none
    | some w =>
      let next := { w with args := w.args.tail, functions := false }
      match w.args with
      | _ :: ['-', '-'] :: _ => return .inr ((← secondWord ev next).map fun w =>
          { w with args := w.args.tail })
      | _ :: ('-' :: c :: cs) :: _ =>
        if (c :: cs).all (· == 'p') then return .inl { next with path := some standardPath }
        else return .inr none
      | _ => return .inr (some next)

/-- Looks at the first words of a simple command to find out how the others are expanded. -/
def lookAhead (ev : Evaluator) (words : List Word) : Run Words := do
  match ← expandMore ev { rest := words } words with
  | none => return { rest := [] }
  | some w =>
    repeating w fun w => do
      let name := w.args.headD []
      let s ← state
      if '/' ∈ name ∨ w.functions ∧ s.functions.any (·.name == name) then return .inr w
      match Builtin.find? name with
      | none => return .inr w
      | some b =>
        let w := { w with special := some (w.special.getD (Builtin.isSpecial name)) }
        match b with
        | .command =>
          match ← unwrap ev w with
          | some w => return .inl w
          | none => return .inr w
        | _ => return .inr w

/-- Expands the words that are left. -/
def expandRest (ev : Evaluator) (w : Words) : Run Words := do
  let assigns := match Builtin.find? (w.args.headD []) with
    | some _ => Builtin.takesAssignments (w.args.headD [])
    | none => false
  let more ← w.rest.mapM fun word =>
    if assigns && word.isAssignment then return [← expandAssignment (output ev) word]
    else expandFields (output ev) word
  return { w with all := w.all ++ more.flatten, args := w.args ++ more.flatten, rest := [] }

/-- A text in which variables and the output of commands are put in their places, as in a
here-document. -/
def expandPrompt (ev : Evaluator) (text : Octets) : Run Octets := do
  let draft := Reading.draft (Reading.inner Reading.maxNesting) (some ⟨['\x00'], false⟩)
    { frame := { mode := .double, quoting := true } }
  let read : Reading Word := do return (← draft (← Reading.nextJoined)).1.parts.reverse
  match read.run { text } with
  | .ok (word, _) => expandDocument (output ev) word
  | .error _ => return text

/-- The prompt that a variable holds. -/
def promptText (ev : Evaluator) (name : String) : Run Octets := do
  expandPrompt ev ((← value? name.toList).getD [])

/-- Shows a command that is about to be run. -/
def traceCommand (ev : Evaluator) (errors : Nat) (words : List Octets) : Run Unit := do
  if ← isOn "xtrace" then
    let line := (← promptText ev "PS4") ++ [' '].intercalate words ++ ['\n']
    discard <| write errors line

/-- Carries out a simple command whose words and redirections are done. -/
def execute (ev : Evaluator) (fl : Flags) (w : Words) : Run Nat := do
  match w.args with
  | [] =>
    update fun s => { s with status := s.outputStatus }
    return (← state).status
  | name :: args =>
    let path := w.path.getD (← state).path
    match ← meaning path w.functions name with
    | .nothing e =>
      warn (name ++ ": ".toList ++ reasonText e)
      update ({ · with status := 127 })
      if w.special = some true then throw .error
      return 127
    | .program =>
      let start : Run Unit := launch ev name args (pathsFor path name)
      if fl.final && !(← hasTraps) then
        start
        return 0
      else
        discard newJob
        waitFor [← fork ev false [] start]
    | .builtin b => callInternal ev fl (w.special == some true) name b args
    | .function f => call ev f args fl

/-- Runs a simple command. -/
def simple (ev : Evaluator) (fl : Flags) (assignments words : List Word)
    (redirects : List Redirect) : Run Nat := do
  update ({ · with outputStatus := 0 })
  let w ← expandRest ev (← lookAhead ev words)
  let isLocal := w.args ≠ [] ∧ w.special ≠ some true
  let execs := w.args.head? = some "exec".toList
  let before := (← state).locals.length
  if isLocal then pushLocals
  let assign (word : Word) : Run Octets := do
    let text ← expandAssignment (output ev) word
    if isLocal then makeLocal text true
    else
      let (name, value) := atEquals text
      Run.assign name value (execs && w.args.length > 1)
    return text
  let body (errors : Nat) : Run Nat := do
    let texts ← assignments.mapM assign
    traceCommand ev errors (texts ++ w.all)
    execute ev fl w
  let unwind : Run Unit :=
    repeating () fun () => do
      if (← state).locals.length > before then
        popLocals
        return .inl ()
      return .inr ()
  always (do
    let wires ← redirects.mapM (rewiring (output ev))
    let kept ← setAside (wires.map Rewiring.target)
    let errors := (kept.lookup 2).join.getD 2
    let undo := putBack kept
    if ← rewireAll (output ev) wires then
      always (body errors) (if execs then release kept else undo)
    else
      undo
      if w.special = some true then throw .error
      return 2) unwind

/-- Lets standard input lead to an empty file. -/
def readNothing : Run Unit := do
  connect 0 ((← ask (·.openPath "/dev/null".toList { reads := true })).toOption)

/-- Starts commands with pipes between them. -/
def pipeline (ev : Evaluator) (fl : Flags) (background : Bool) (source : Option Nat) :
    List Command → Run (List Nat)
  | [] => return []
  | c :: rest => do
    let ends ← if rest.isEmpty then pure none else some <$> ask fun _ => Machine.pipe
    let wires := (source.map (0, some ·)).toList ++ (ends.map (1, some ·.2)).toList
    let pid ← fork ev background wires do
      if background && source.isNone then readNothing
      discard <| ev.run c { fl with final := true }
    return pid :: (← pipeline ev fl background (ends.map (·.1)) rest)

/-- Remembers processes that run in the background. -/
def remembered (number : Nat) (pids : List Nat) : Run Nat := do
  update fun s => { s with
    last := pids.getLast?.or s.last
    jobs := { number, processes := pids.map (·, none) } :: s.jobs }
  return 0

/-- The status of a part of a command, which becomes that of the shell. -/
def noted (work : Run Nat) : Run Nat := do
  let status ← work
  update ({ · with status })
  return status

/-- What a loop does after a round: whether it ends, and whether it was said that a function ends
there with the last status. -/
def afterRound : Run (Bool × Bool) := do
  let s ← state
  match s.skip with
  | .nothing => return (false, false)
  | .function explicit => return (true, explicit)
  | skip =>
    if s.skipCount ≤ 1 then
      update ({ · with skip := .nothing, skipCount := 0 })
      return (skip == .leaveLoop, false)
    else
      update ({ · with skipCount := s.skipCount - 1 })
      return (true, false)

/-- Runs the body of a loop as often as the test says. -/
def loop (ev : Evaluator) (fl : Flags) (whileSucceeds : Bool) (test body : Command) : Run Nat :=
  repeating 0 fun status => do
    let passed ← ev.run test { tested := true }
    let skipped := (← state).skip ≠ .nothing
    let (ends, leaves) ← afterRound
    if ends then return .inr (if leaves then passed else status)
    if skipped then return .inl status
    if (passed = 0) ≠ whileSucceeds then return .inr status
    let status ← ev.run body { tested := fl.tested }
    let (ends, _) ← afterRound
    return if ends then .inr status else .inl status

/-- Runs the body of a loop once for each word. -/
def each (ev : Evaluator) (fl : Flags) (name : Octets) (body : Command) (status : Nat) :
    List Octets → Run Nat
  | [] => return status
  | word :: rest => do
    setVariable name (some word)
    let status ← ev.run body { tested := fl.tested }
    let (ends, _) ← afterRound
    if ends then return status else each ev fl name body status rest

/-- Runs what is inside a loop. -/
def inLoop (work : Run Nat) : Run Nat := do
  update fun s => { s with loops := s.loops + 1 }
  let status ← work
  update fun s => { s with loops := s.loops - 1 }
  return status

/-- The body of the first case that a text matches. -/
def firstCase (ev : Evaluator) (text : Octets) :
    List (List Word × Option Command) → Run (Option Command)
  | [] => return none
  | (patterns, body) :: rest => do
    let found ← patterns.findM? fun p => do
      return Pattern.isMatch (← expandPattern (output ev) p) text
    if found.isSome then return body else firstCase ev text rest

/-- The commands of a sequence. -/
def steps : Command → List Command
  | .sequence first second => steps first ++ [second]
  | c => [c]

/-- Runs commands one after the other. -/
def sequence (ev : Evaluator) (fl : Flags) (status : Nat) : List Command → Run Nat
  | [] => return status
  | [c] => noted (ev.run c fl)
  | c :: rest => do
    let status ← ev.run c { tested := fl.tested }
    if (← state).skip ≠ .nothing then return status else sequence ev fl status rest

/-- Runs a command; says also whether its failure ends the shell if that is asked for. -/
def command (ev : Evaluator) (fl : Flags) : Command → Run (Nat × Bool)
  | .negation c => do
    let status ← noted do
      let status ← ev.run c { tested := true }
      if (← state).skip ≠ .nothing then return status
      return if status = 0 then 1 else 0
    return (status, false)
  | .redirected line c redirects => do
    atLine line
    let wires ← redirects.mapM (rewiring (output ev))
    let kept ← setAside (wires.map Rewiring.target)
    let status ← noted <| always (do
      if ← rewireAll (output ev) wires then ev.run c { tested := fl.tested } else return 2)
      (putBack kept)
    return (status, false)
  | .simple line assignments words redirects => do
    atLine line
    return (← noted (simple ev fl assignments words redirects), true)
  | .each line name words body => do
    atLine line
    let words ← words.mapM (expandFields (output ev))
    return (← noted (inLoop (each ev fl name body 0 words.flatten)), false)
  | .loop whileSucceeds test body =>
    return (← noted (inLoop (loop ev fl whileSucceeds test body)), false)
  | .subshell line c redirects => do
    atLine line
    let wires ← redirects.mapM (rewiring (output ev))
    let work : Run Unit := do
      wires.forM (rewire (output ev))
      discard <| ev.run c { fl with final := true }
    if fl.final && !(← hasTraps) then
      work
      return (0, true)
    else
      discard newJob
      return (← noted do waitFor [← fork ev false [] work], true)
  | .background _ c redirects => do
    let wires ← redirects.mapM (rewiring (output ev))
    let number ← newJob
    let pid ← fork ev true [] do
      readNothing
      wires.forM (rewire (output ev))
      discard <| ev.run c { final := true }
    return (← noted (remembered number [pid]), true)
  | .pipeline commands background => do
    let number ← newJob
    let pids ← pipeline ev fl background none commands
    let status ← noted (if background then remembered number pids else waitFor pids)
    return (status, true)
  | .select line word cases => do
    atLine line
    let text ← expandText (output ev) word
    let body ← firstCase ev text cases
    let status ← noted <| match body with
      | some c => ev.run c fl
      | none => return 0
    return (status, false)
  | .conjunction first second => do
    let status ← ev.run first { tested := true }
    if status ≠ 0 ∨ (← state).skip ≠ .nothing then return (status, false)
    else return (← noted (ev.run second fl), false)
  | .disjunction first second => do
    let status ← ev.run first { tested := true }
    if status = 0 ∨ (← state).skip ≠ .nothing then return (status, false)
    else return (← noted (ev.run second fl), false)
  | .sequence first second =>
    return (← sequence ev fl 0 (steps (.sequence first second)), false)
  | .conditional test yes no => do
    let status ← ev.run test { tested := true }
    if (← state).skip ≠ .nothing then return (status, false)
    else if status = 0 then return (← noted (ev.run yes fl), false)
    else
      match no with
      | some c => return (← noted (ev.run c fl), false)
      | none => return (← noted (return 0), false)
  | .function line name body => do
    update fun s => { s with
      functions := ⟨name, line, body⟩ :: s.functions.filter (·.name != name) }
    return (← noted (return 0), false)

/-- The number of commands that are taken to use a second. -/
def commandsPerSecond : Nat := 200000

/-- Counts a command, and gets a signal for it if it is one too many. -/
def spendTime : Run Unit := do
  let s ← state
  if s.self.limits ≠ [] then
    let limit := s.self.limit .time
    let isOver (bound : Option Nat) : Bool := bound.any (max 1 · * commandsPerSecond ≤ s.worked)
    update ({ · with worked := s.worked + 1 })
    if isOver limit.hard then receive 9
    else if isOver limit.soft ∧ s.worked % commandsPerSecond = 0 then receive 24

/-- Runs a command with all that happens around it: traps, and the end of the shell. -/
def evaluate (ev : Evaluator) (c : Command) (fl : Flags) : Run Nat := do
  let m ← ask fun _ => getModify fun m => { m with budget := m.budget - 1, turn := m.turn - 1 }
  if m.budget = 0 then throw (.killed 24)
  if m.turn = 0 then liftM Task.yield
  spendTime
  if ← isOn "noexec" then
    runTraps ev
    if fl.final then throw .done
    return (← state).status
  runTraps ev
  let (status, checked) ← command ev fl c
  runTraps ev
  if checked && !fl.tested && status ≠ 0 && (← isOn "errexit") then throw .done
  if fl.final then throw .done
  return (← state).status

end Run

/-- Runs commands that are nested no deeper than so many others. -/
def evaluator (start : Starter) : Nat → Command → Flags → Run Nat
  | 0, _, _ => throw (.killed 11)
  | depth + 1, c, fl => Run.evaluate ⟨evaluator start depth, start⟩ c fl

end LineShell.Unix.Scripting
