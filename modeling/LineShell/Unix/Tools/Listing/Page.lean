import LineShell.Unix.Date.Format
import LineShell.Unix.Tools.Listing.Item

/-! The lines of a listing. Names may be arranged in columns or stand behind all that is known about
their files. What is written consists of pieces, some of which do not move the cursor. -/

namespace LineShell.Unix

open Octets

namespace Listing

/-- A piece of what is written. -/
inductive Piece
  | text (o : Octets)
  | name (o : Octets)
  /-- The name of a directory above its contents. -/
  | heading (o : Octets)
  /-- A command to the terminal. -/
  | command (o : Octets)
  deriving DecidableEq, Repr

/-- What a listing looks like: its settings, how times and sizes are written, and the colours, if
there are any. -/
structure Look where
  settings : Settings
  palette : Option Palette
  zone : Zone
  now : Int
  stamps : Stamps
  blockScale : Scale
  sizeScale : Scale

/-- How wide the columns are and whether some name is in quotes. -/
structure Widths where
  inode : Nat := 0
  blocks : Nat := 0
  links : Nat := 0
  user : Nat := 0
  size : Nat := 0
  major : Nat := 0
  minor : Nat := 0
  quoted : Bool := false

/-- The number of bytes of a text that take up a place on the line. -/
def columnsOf (o : Octets) : Nat := o.countP isPlain

/-- The bytes of a file on the disk. -/
def storage (f : Facts) : Nat :=
  match f.kind with
  | .regular => (f.size + 4095) / 4096 * 4096
  | .directory => 4096
  | _ => 0

/-- The numbers of a device. -/
def deviceNumbers (fs : FileSystem) (i : Inode) : Nat × Nat :=
  match fs.node? i with
  | some (.device .null) => (1, 3)
  | some (.device .full) => (1, 7)
  | some (.device .terminal) => (5, 0)
  | _ => (0, 0)

/-- The number of names that a file has. -/
def linkCount (fs : FileSystem) (i : Item) : Nat :=
  if i.kind = .directory then
    2 + (fs.entriesOf i.inode).countP fun (_, j) =>
      match fs.node? j with
      | some (.directory _ _) => true
      | _ => false
  else 1

/-- The letters for the kind and mode of a file. -/
def modeText (kind : Kind) (mode : Option Nat) : Octets :=
  let letter := match kind with
    | .directory => 'd'
    | .link => 'l'
    | .character => 'c'
    | .pipe => 'p'
    | .regular => '-'
  match mode with
  | none => letter :: List.replicate 9 '?'
  | some mode =>
    let bit (n : Nat) : Bool := mode &&& n != 0
    let triple (shift : Nat) (special : Bool) (mark : Char) : Octets :=
      [if bit (4 <<< shift) then 'r' else '-', if bit (2 <<< shift) then 'w' else '-',
        if special then (if bit (1 <<< shift) then mark else mark.toUpper)
        else if bit (1 <<< shift) then 'x' else '-']
    letter :: triple 6 (bit 0o4000) 's' ++ triple 3 (bit 0o2000) 's' ++ triple 0 (bit 0o1000) 't'

/-- Blanks and tabs from one column to another. -/
def indent (tab : Nat) : Nat → Nat → Nat → Octets
  | 0, _, _ => []
  | fuel + 1, start, stop =>
    if start ≥ stop then []
    else if tab ≠ 0 ∧ stop / tab > (start + 1) / tab then
      '\t' :: indent tab fuel (start + tab - start % tab) stop
    else ' ' :: indent tab fuel (start + 1) stop

/-- The least width of a column. -/
def minColumn : Nat := 3

/-- Lengths in so many columns: the width of each of them. -/
def columnWidths (lengths : List Nat) (columns : Nat) (column : Nat → Nat) : List Nat :=
  (lengths.zipIdx).foldl (fun widths (length, i) =>
    let c := column i
    let real := length + if c + 1 = columns then 0 else 2
    widths.modify c (max real)) (List.replicate columns minColumn)

namespace Look

/-- Whether names without quotes are moved to the right if there are others with them. -/
def aligns (l : Look) : Bool :=
  let s := l.settings
  (s.format = .long || (s.format = .vertical || s.format = .horizontal) && s.width ≠ some 0) &&
    match s.quoting with
    | some (.shell false _) | some (.c false) => true
    | _ => false

/-- Bytes that are to be told from what stands behind names. -/
def others (l : Look) : Octets :=
  (if l.settings.quoting = some .escape then [' '] else []) ++
    match l.settings.marks with
    | .types => "*=>@|".toList
    | .classify => "=>@|".toList
    | _ => []

/-- How names are quoted. -/
def quoting (l : Look) : Quoting := l.settings.quoting.getD .literal

/-- A text in quotes as it is shown. -/
def mask (l : Look) (text : Octets) : Octets :=
  let raw := match l.quoting with
    | .literal | .shell _ false => true
    | _ => false
  if l.settings.masked && raw then text.map fun c => if isPlain c then c else '?' else text

/-- A name as it is shown. -/
def shown (l : Look) (name : Octets) : Octets := l.mask (l.quoting.quote name l.others)

/-- The name of a directory as it is shown above its contents. -/
def heading (l : Look) (name : Octets) : Octets := l.mask (l.quoting.quote name [':'])

/-- Whether a name is shown in another form than its own. -/
def isQuoted (l : Look) (name : Octets) : Bool :=
  let text := l.quoting.quote name l.others
  text.head? ≠ name.head? || text.length ≠ name.length

/-- Whether a name gets a blank in front. -/
def isMoved (l : Look) (w : Widths) (name : Octets) : Bool :=
  l.aligns && w.quoted && !l.isQuoted name

/-- The width of a name on the screen. -/
def nameWidth (l : Look) (w : Widths) (name : Octets) : Nat :=
  columnsOf (l.shown name) + if l.isMoved w name then 1 else 0

/-- The mark of a file of a kind. -/
def mark (l : Look) (kind : Kind) (mode : Nat) : Octets :=
  match l.settings.marks, kind with
  | .none, _ => []
  | _, .directory => ['/']
  | .slash, _ => []
  | _, .link => ['@']
  | _, .pipe => ['|']
  | .classify, .regular => if mode &&& 0o111 ≠ 0 then ['*'] else []
  | _, _ => []

/-- The mark behind the name of a file. -/
def markOf (l : Look) (i : Item) : Octets := l.mark i.kind (i.facts.elim 0 (·.mode))

/-- The command that starts a colour. -/
def start (p : Palette) (colour : Octets) : List Piece :=
  [.command (p.code "lc"), .command colour, .command (p.code "rc")]

/-- The command that ends all colours. -/
def reset (p : Palette) : List Piece :=
  match p.code? "ec" with
  | some o => [.command o]
  | none => start p (p.code "rs")

/-- The colour of ordinary text. -/
def ordinary (l : Look) : List Piece :=
  match l.palette with
  | some p => if p.isColoured "no" then start p (p.code "no") else []
  | none => []

/-- The colour of a file or of what a link leads to. -/
def colour? (p : Palette) (i : Item) (target : Bool) : Option Octets :=
  let (kind, mode) := if target then
      (i.leads.map (·.kind), i.leads.elim 0 (·.mode))
    else
      match (if p.followsLinks then i.leads else none) with
      | some f => if i.tracked then (some f.kind, f.mode) else (none, 0)
      | none => (some i.kind, i.facts.elim 0 (·.mode))
  let name := if target then i.target.getD [] else i.name
  let code := if target ∧ i.leads.isNone ∧ p.isColoured "mi" then "mi"
    else
      match kind with
      | none => "or"
      | some kind => if i.facts.isNone && kind = .regular then "fi" else p.kindOf kind mode
  let code := if code = "ln" ∧ i.leads.isNone ∧ (p.followsLinks ∨ p.isColoured "or") then "or"
    else code
  if code = "fi" then p.byEnding? name <|> p.code? "fi" else p.code? code

/-- A name with its colours, at a place on the line. -/
def namePieces (l : Look) (w : Widths) (i : Item) (target : Bool) (column : Nat) : List Piece :=
  let name := if target then i.target.getD [] else i.name
  let text := l.shown name
  let pad : List Piece := if !target && l.isMoved w name then [.text [' ']] else []
  match l.palette with
  | none => pad ++ [.name text]
  | some p =>
    let colour := colour? p i target
    let before := match colour with
      | some c =>
        (if p.isColoured "no" then [.command (p.code "lc"), .command (p.code "rc")] else []) ++
          start p c
      | none => []
    let after :=
      if colour.isNone && !p.isColoured "no" then []
      else
        let width := l.settings.width.getD 0
        let wraps := width ≠ 0 && column / width ≠ (column + text.length - 1) / width
        reset p ++ if wraps then [.command (p.code "cl")] else []
    pad ++ before ++ .name text :: after

/-- The blocks of a file. -/
def blocks (l : Look) (i : Item) : Octets :=
  match i.facts with
  | none => ['?']
  | some f => l.blockScale.render (storage f)

/-- The size of a file. -/
def size (l : Look) (f : Facts) : Octets := l.sizeScale.render f.size

/-- The name of the user that files belong to. -/
def user (l : Look) (i : Item) : Octets :=
  if i.facts.isNone then ['?'] else if l.settings.numeric then ['0'] else "root".toList

/-- How wide columns have to be for files; `names` are those that were looked up. -/
def widths (l : Look) (fs : FileSystem) (names : List Octets) (items : List Item) : Widths :=
  let known := items.filter (·.facts.isSome)
  let widest (f : Item → Octets) (items : List Item) : Nat :=
    items.foldl (fun n i => max n (f i).length) 0
  let devices := known.filter (·.kind = .character)
  let number (part : Nat × Nat → Nat) : Nat :=
    widest (fun i => Text.ofNat (part (deviceNumbers fs i.inode))) devices
  let (major, minor) := (number (·.1), number (·.2))
  { inode := widest (fun i => Text.ofNat i.inode) items
    blocks := widest l.blocks known
    links := widest (fun i => Text.ofNat (linkCount fs i)) known
    user := widest l.user known
    size := max (if devices = [] then 0 else major + 2 + minor)
      (widest (fun i => (i.facts.map l.size).getD []) (known.filter (·.kind ≠ .character)))
    major, minor
    quoted := l.aligns && names.any l.isQuoted }

/-- The time of a file, and a blank. -/
def timeText (l : Look) (f : Facts) : Octets :=
  let t := l.settings.time f
  let recent := l.now - 15778476 * Date.nano < t && t ≤ l.now
  let format := if recent then l.stamps.recent else l.stamps.usual
  match DateFormat.format? l.zone t format with
  | some text => text ++ [' ']
  | none => ofInt (t.fdiv Date.nano) ++ [' ']

/-- The width of a time that is not known. -/
def timeWidth (l : Look) : Nat :=
  ((DateFormat.format? l.zone 0 l.stamps.usual).map columnsOf).getD 0

/-- What stands in front of a name in every format. -/
def frills (l : Look) (w : Widths) (i : Item) : Octets :=
  let s := l.settings
  let fill (width : Nat) (o : Octets) : Octets :=
    o.leftpad (if s.format = .commas then 0 else width) ' ' ++ [' ']
  (if s.inodes then fill w.inode (Text.ofNat i.inode) else []) ++
    if s.blocks then fill w.blocks (l.blocks i) else []

/-- The width of a name with all that belongs to it. -/
def labelWidth (l : Look) (w : Widths) (i : Item) : Nat :=
  (l.frills w i).length + (if l.settings.context then 2 else 0) + l.nameWidth w i.name +
    (l.markOf i).length

/-- A name with all that belongs to it, at a place on the line. -/
def label (l : Look) (w : Widths) (i : Item) (column : Nat) : List Piece :=
  l.ordinary ++ .text (l.frills w i ++ if l.settings.context then ['?', ' '] else []) ::
    l.namePieces w i false column ++ [.text (l.markOf i)]

/-- All that is known about a file but its name: what counts for the place on the line is only what
stands behind the users. -/
def details (l : Look) (fs : FileSystem) (w : Widths) (i : Item) : Octets × Nat :=
  let s := l.settings
  let right (width : Nat) (o : Octets) : Octets := o.leftpad width ' ' ++ [' ']
  let user := if s.numeric && i.facts.isSome then right w.user (l.user i)
    else (l.user i).rightpad w.user ' ' ++ [' ']
  let size := match i.facts with
    | none => right w.size ['?']
    | some f =>
      if f.kind = .character then
        let (major, minor) := deviceNumbers fs i.inode
        let spare := w.size - (w.major + 2 + w.minor)
        (Text.ofNat major).leftpad (w.major + spare) ' ' ++ ',' :: ' ' ::
          right w.minor (Text.ofNat minor)
      else right w.size (l.size f)
  let links := if i.facts.isSome then Text.ofNat (linkCount fs i) else ['?']
  let users := (if s.owner then user else []) ++ (if s.group then user else []) ++
    (if s.author then user else []) ++ if s.context then ['?', ' '] else []
  let front := l.frills w i ++ modeText i.kind (i.facts.map (·.mode)) ++ ' ' :: right w.links links
  let behind := size ++ match i.facts with
    | some f => l.timeText f
    | none => right l.timeWidth ['?']
  (front ++ users ++ behind, behind.length + if users = [] then front.length else 0)

/-- The line for a file in a long listing. -/
def longLine (l : Look) (fs : FileSystem) (w : Widths) (i : Item) : List Piece :=
  let (front, column) := l.details fs w i
  let name := l.namePieces w i false column
  let behind := match i.target with
    | none => if i.kind = .link then [] else [.text (l.markOf i)]
    | some _ =>
      let column := column + (l.shown i.name).length + 4
      let mark := i.leads.elim [] fun f => l.mark f.kind f.mode
      .text " -> ".toList :: l.namePieces w i true column ++ [.text mark]
  let margin := if l.settings.indexed then "  ".toList else []
  l.ordinary ++ .text (margin ++ front) :: name ++ behind ++ [.text [l.settings.terminator]]

/-- Names in columns. -/
def columns (l : Look) (w : Widths) (items : List Item) (byColumns : Bool) : List Piece :=
  let width := l.settings.width.getD 0
  let tab := if l.palette.isSome then 0 else l.settings.tab.getD 0
  let n := items.length
  let lengths := items.map (l.labelWidth w)
  let most := min n (width / minColumn + if width % minColumn = 0 then 0 else 1)
  let place (columns i : Nat) : Nat :=
    if byColumns then i / ((n + columns - 1) / columns) else i % columns
  let widths (columns : Nat) : List Nat := columnWidths lengths columns (place columns)
  let columns := ((List.range most).reverse.map (· + 1)).find? fun columns =>
    columns ≤ 1 || (widths columns).foldl (· + ·) 0 < width || (widths columns).all (· = minColumn)
  let columns := columns.getD 1
  let widths := widths columns
  let rows := (n + columns - 1) / columns
  let all := (items.zip lengths).toArray
  let row (indices : List (Nat × Nat)) : List Piece :=
    let step (state : List Piece × Nat × Nat) (ci : Nat × Nat) : List Piece × Nat × Nat :=
      let (line, reached, start) := state
      match all[ci.2]? with
      | none => state
      | some (item, length) =>
        (line ++ .text (indent tab (width + 1) reached start) :: l.label w item start,
          start + length, start + widths.getD ci.1 0)
    (indices.foldl step ([], 0, 0)).1 ++ [.text [l.settings.terminator]]
  (List.range rows).flatMap fun r =>
    row ((List.range columns).filterMap fun c =>
      let i := if byColumns then c * rows + r else r * columns + c
      if i < n then some (c, i) else none)

/-- Names with a byte and a blank between them, in lines that are not too long. -/
def separated (l : Look) (w : Widths) (items : List Item) (separator : Char) : List Piece :=
  let width := l.settings.width.getD 0
  let step (state : List Piece × Nat × Bool) (i : Item) : List Piece × Nat × Bool :=
    let (pieces, column, first) := state
    let length := if width = 0 then 0 else l.labelWidth w i
    if first then (l.label w i 0, length, false)
    else if width = 0 ∨ column + length + 2 < width then
      (pieces ++ .text [separator, ' '] :: l.label w i (column + 2), column + 2 + length, false)
    else
      (pieces ++ .text [separator, l.settings.terminator] :: l.label w i 0, length, false)
  (items.foldl step ([], 0, true)).1 ++ [.text [l.settings.terminator]]

/-- The lines for files, in columns that are wide enough for others too. -/
def page (l : Look) (fs : FileSystem) (w : Widths) (items : List Item) : List Piece :=
  match l.settings.format with
  | .single => items.flatMap fun i => l.label w i 0 ++ [.text [l.settings.terminator]]
  | .long => items.flatMap (l.longLine fs w)
  | .commas => l.separated w items ','
  | .vertical =>
    if l.settings.width = some 0 then l.separated w items ' ' else l.columns w items true
  | .horizontal =>
    if l.settings.width = some 0 then l.separated w items ' ' else l.columns w items false

end Look

end Listing

end LineShell.Unix
