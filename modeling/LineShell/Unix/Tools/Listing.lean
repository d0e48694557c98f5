import LineShell.Unix.Iterate
import LineShell.Unix.Tools.Listing.Page

/-! Listing files and the contents of directories. -/

namespace LineShell.Unix

open Octets

namespace Listing

/-- What was written so far: how many bytes, where names stand among them, the last one first, and
whether colours have been used. -/
structure Sheet where
  position : Nat := 0
  names : List (Nat × Nat) := []
  headings : List (Nat × Nat) := []
  dyed : Bool := false

/-- The work of writing a listing. -/
abbrev Printer := StateT Sheet Tool

/-- Writes a piece. The first command to the terminal comes behind one that ends all colours. -/
def put (l : Look) (piece : Piece) : Printer Unit := do
  let s ← get
  match piece with
  | .text o =>
    Tool.print o
    set { s with position := s.position + o.length }
  | .name o =>
    Tool.print o
    let stop := s.position + o.length
    set { s with position := stop, names := (s.position, stop) :: s.names }
  | .heading o =>
    Tool.print o
    let stop := s.position + o.length
    set { s with position := stop, headings := (s.position, stop) :: s.headings }
  | .command o =>
    if !s.dyed then
      for piece in (l.palette.map Look.reset).getD [] do
        if let .command o := piece then Tool.print o
      set { s with dyed := true }
    Tool.print o

/-- Writes pieces. -/
def putAll (l : Look) (pieces : List Piece) : Printer Unit := pieces.forM (put l)

/-- Writes files, in columns that are so wide. -/
def putItems (l : Look) (w : Widths) (items : List Item) : Printer Unit := do
  if !items.isEmpty then putAll l (l.page (← Tool.files) w items)

/-- A path with another name at its end. -/
def join (path name : Octets) : Octets :=
  match path.reverse.dropWhile (· = '/') with
  | [] => path ++ name
  | reversed => reversed.reverse ++ '/' :: name

/-- The path of a file in a directory, as it is looked up. -/
def attach (path name : Octets) : Octets :=
  if path = ['.'] then name
  else if path.getLast? = some '/' then path ++ name
  else path ++ '/' :: name

/-- What is still to be done. -/
inductive Errand
  /-- To list the directory at a path, which may be an operand. -/
  | visit (path : Octets) (operand : Bool)
  /-- To note that a directory has been left. -/
  | leave (dir : Inode)

/-- How far a listing has come. -/
structure Progress where
  errands : List Errand
  /-- The directories that are being listed with all below them. -/
  entered : List Inode := []
  /-- Whether the names of directories are written. -/
  named : Bool
  first : Bool := true
  code : Nat := 0

/-- Lists a directory, and answers with what is to be done next. -/
def visit (l : Look) (p : Progress) (path : Octets) (dir : Inode) (rest : List Errand) :
    Printer Progress := do
  let s := l.settings
  let fs ← Tool.files
  let p ← if p.named || s.recursive then do
      if !p.first then putAll l [.text ['\n']]
      putAll l [.text (if s.indexed then "  ".toList else []),
        .heading (l.heading path), .text [':', '\n']]
      pure { p with first := false }
    else pure p
  let above := match fs.node? dir with
    | some (.directory parent _) => parent
    | _ => dir
  let entries := if fs.isLinked dir then (['.'], dir) :: (['.', '.'], above) :: fs.entriesOf dir
    else []
  let files := (entries.filter fun (name, _) => s.lists name).map fun (name, i) =>
    (attach path name, name, some i)
  let (items, code) ← s.gather (l.palette.getD {}) false files
  let w := l.widths fs (files.map (·.2.1)) items
  let items := s.sort (fun i => l.nameWidth w i.name) items
  if s.format = .long || s.blocks then
    let total := items.foldl (fun n i => n + i.facts.elim 0 storage) 0
    putAll l [.text ((if s.indexed then "  ".toList else []) ++ "total ".toList ++
      l.blockScale.render total ++ [s.terminator])]
  putItems l w items
  let below := if s.recursive then
      (items.filter fun i => i.kind = .directory && i.name ≠ ['.'] && i.name ≠ ['.', '.']).map
        fun i => Errand.visit (join path i.name) false
    else []
  let leave := if s.recursive then [Errand.leave dir] else []
  return { p with
    errands := below ++ leave ++ rest
    entered := if s.recursive then dir :: p.entered else p.entered
    code := max p.code code }

/-- Does the next errand. In the end there is an exit code. -/
def step (l : Look) (p : Progress) : Printer (Progress ⊕ Nat) := do
  match p.errands with
  | [] => return .inr p.code
  | .leave dir :: errands => return .inl { p with errands, entered := p.entered.erase dir }
  | .visit path operand :: errands =>
    let process ← read
    let fs ← Tool.files
    let opened : Except Reason Inode := do
      let dir ← fs.directory process.dir path
      fs.demand dir .read
      return dir
    match opened with
    | .error e =>
      Tool.complain ("cannot open directory ".toList ++ quoteName path) e
      return .inl { p with errands, code := max p.code (if operand then 2 else 1) }
    | .ok dir =>
      if p.entered.contains dir then
        Tool.complain (quoteBeforeColon path ++ ": not listing already-listed directory".toList)
        return .inl { p with errands, code := 2 }
      else return .inl (← visit l p path dir errands)

/-- The places of names, on a line of their own. -/
def places (title : String) (all : List (Nat × Nat)) : Octets :=
  if all = [] then []
  else title.toList ++ (all.reverse.flatMap fun (start, stop) =>
    ' ' :: Text.ofNat start ++ ' ' :: Text.ofNat stop) ++ ['\n']

/-- Lists files as operands, and then the directories among them with their contents. -/
def listAll (l : Look) (operands : List Octets) : Printer Nat := do
  let s := l.settings
  let names := if operands = [] && s.directories then [['.']] else operands
  let (items, code) ← s.gather (l.palette.getD {}) true (names.map fun n => (n, n, none))
  let w := l.widths (← Tool.files) names items
  let (opened, files) := (s.sort (fun i => l.nameWidth w i.name) items).partition (·.opened)
  putItems l w files
  let directories := if operands = [] && !s.directories then [['.']] else opened.map (·.name)
  if !files.isEmpty && !directories.isEmpty then putAll l [.text ['\n']]
  let named := !files.isEmpty || operands.length > 1 || directories.length > 1
  let start : Progress := {
    errands := directories.map (.visit · true), named, code }
  iterate (pure code) (step l) maxSteps start

/-- Writes what comes at the end of a listing. -/
def close (l : Look) : Printer Unit := do
  let sheet ← get
  if let some p := l.palette then
    if sheet.dyed && (p.code "lc" ≠ "\x1b[".toList || p.code "rc" ≠ ['m']) then
      Tool.print (p.code "lc" ++ p.code "rc")
  if l.settings.indexed then
    let name := (quotingNames.find? (·.1 == l.quoting)).elim "literal" fun (_, names) =>
      names.headD ""
    Tool.print (places "//DIRED//" sheet.names ++ places "//SUBDIRED//" sheet.headings ++
      "//DIRED-OPTIONS// --quoting-style=".toList ++ name.toList ++ ['\n'])

/-- The colours that the environment asks for; there are none if the terminal is not known. -/
def palette : Tool (Option Palette) := do
  let p ← read
  match p.getenv? "LS_COLORS" with
  | some (c :: cs) =>
    match Palette.ofText? (c :: cs) with
    | .ok palette => return some palette
    | .error problem =>
      if let .unknownKind name := problem then
        Tool.complain ("unrecognized prefix: ".toList ++ quoteEscaped name)
      Tool.complain "unparsable value for LS_COLORS environment variable".toList
      return none
  | _ =>
    let known := (p.getenv? "COLORTERM").any (· ≠ []) || (p.getenv? "TERM").any Palette.isKnown
    return if known then some {} else none

/-- How sizes are written: those of blocks, and those of files. -/
def scales (s : Settings) : Tool (Scale × Scale) := do
  let p ← read
  let own := p.getenv? "LS_BLOCK_SIZE"
  let asked := own <|> p.getenv? "BLOCK_SIZE"
  let block : Scale :=
    ((asked <|> p.getenv? "BLOCKSIZE").bind fun o => (Scale.read? o).toOption).getD
      { block := if (p.getenv? "POSIXLY_CORRECT").isSome then 512 else 1024 }
  match s.scale with
  | some scale => return (scale, scale)
  | none => return (if s.kibibytes then { block := 1024 } else block,
      if asked.isSome then block else {})

end Listing

/-- Lists files. -/
def Tool.ls : Tool Nat := do
  let (s, operands) ← Tool.options 2 Listing.switches ({} : Listing.Settings) Listing.choose
  let (blockScale, sizeScale) ← Listing.scales s
  let settings ← s.complete
  let stamps ← if settings.format = .long then
      let style := settings.stamp <|> (← read).getenv? "TIME_STYLE"
      Listing.readStamps (style.getD "locale".toList)
    else pure {}
  let palette ← if settings.coloured then Listing.palette else pure none
  let look : Listing.Look := {
    settings := { settings with coloured := palette.isSome }
    palette, zone := ← Tool.zone, now := (← Tool.files).now, stamps, blockScale, sizeScale }
  let work : Listing.Printer Nat := do
    let code ← Listing.listAll look operands
    Listing.close look
    return code
  work.run' {}

end LineShell.Unix
