import LineShell.Unix.Scale
import LineShell.Unix.Tool

/-! What a listing shows and how, as options and environment variables say. -/

namespace LineShell.Unix

open Octets

namespace Listing

/-- How names are arranged. -/
inductive Format
  | single
  | long
  | commas
  | vertical
  | horizontal
  deriving DecidableEq

/-- What names are ordered by. -/
inductive Order
  | name
  | none
  | size
  | time
  | extension
  | version
  | width
  deriving DecidableEq

/-- Which marks follow names. -/
inductive Marks
  | none
  | slash
  | types
  | classify
  deriving DecidableEq

/-- Which of the times of a file counts. -/
inductive Clock
  | modified
  | changed
  | accessed
  | made
  deriving DecidableEq

/-- When links are followed. -/
inductive Following
  | never
  | operands
  | directoryOperands
  | always
  deriving DecidableEq

/-- Which hidden files are listed. -/
inductive Hidden
  | none
  | almostAll
  | all
  deriving DecidableEq

/-- How files are listed. -/
structure Settings where
  format : Format := .single
  order : Option Order := none
  reverse : Bool := false
  recursive : Bool := false
  /-- Directories are listed as files. -/
  directories : Bool := false
  hidden : Hidden := .none
  marks : Marks := .none
  following : Option Following := none
  quoting : Option Quoting := none
  /-- Bytes that cannot be printed are shown as question marks. -/
  masked : Bool := false
  /-- Patterns of names that are left out, and of those that are unless hidden files are listed. -/
  ignored : List Octets := []
  unlisted : List Octets := []
  width : Option Nat := none
  tab : Option Nat := none
  inodes : Bool := false
  blocks : Bool := false
  owner : Bool := true
  group : Bool := true
  author : Bool := false
  context : Bool := false
  numeric : Bool := false
  scale : Option Scale := none
  /-- Blocks are of 1024 bytes. -/
  kibibytes : Bool := false
  directoriesFirst : Bool := false
  terminator : Char := '\n'
  clock : Clock := .modified
  /-- How times are written, as an option says. -/
  stamp : Option Octets := none
  coloured : Bool := false
  /-- The places of names are told at the end. -/
  indexed : Bool := false

def switches : List Switch := [
  ⟨['a'], ["all"], .none⟩, ⟨['b'], ["escape"], .none⟩, ⟨['d'], ["directory"], .none⟩,
  ⟨['D'], ["dired"], .none⟩, ⟨[], ["full-time"], .none⟩,
  ⟨[], ["group-directories-first"], .none⟩, ⟨['h'], ["human-readable"], .none⟩,
  ⟨['i'], ["inode"], .none⟩, ⟨['k'], ["kibibytes"], .none⟩,
  ⟨['n'], ["numeric-uid-gid"], .none⟩, ⟨['G'], ["no-group"], .none⟩,
  ⟨['q'], ["hide-control-chars"], .none⟩, ⟨['r'], ["reverse"], .none⟩, ⟨['s'], ["size"], .none⟩,
  ⟨['w'], ["width"], .required⟩, ⟨['A'], ["almost-all"], .none⟩,
  ⟨['B'], ["ignore-backups"], .none⟩, ⟨[], ["classify"], .optional⟩,
  ⟨[], ["file-type"], .none⟩, ⟨[], ["si"], .none⟩, ⟨['H'], ["dereference-command-line"], .none⟩,
  ⟨[], ["dereference-command-line-symlink-to-dir"], .none⟩, ⟨[], ["hide"], .required⟩,
  ⟨['I'], ["ignore"], .required⟩, ⟨[], ["indicator-style"], .required⟩,
  ⟨['L'], ["dereference"], .none⟩, ⟨['N'], ["literal"], .none⟩, ⟨['Q'], ["quote-name"], .none⟩,
  ⟨[], ["quoting-style"], .required⟩, ⟨['R'], ["recursive"], .none⟩,
  ⟨[], ["format"], .required⟩, ⟨[], ["show-control-chars"], .none⟩, ⟨[], ["sort"], .required⟩,
  ⟨['T'], ["tabsize"], .required⟩, ⟨[], ["time"], .required⟩, ⟨[], ["time-style"], .required⟩,
  ⟨[], ["zero"], .none⟩, ⟨[], ["color"], .optional⟩, ⟨[], ["hyperlink"], .optional⟩,
  ⟨[], ["block-size"], .required⟩, ⟨['Z'], ["context"], .none⟩, ⟨[], ["author"], .none⟩,
  ⟨[], ["help"], .none⟩, ⟨[], ["version"], .none⟩, ⟨['c'], [], .none⟩, ⟨['f'], [], .none⟩,
  ⟨['g'], [], .none⟩, ⟨['l'], [], .none⟩, ⟨['m'], [], .none⟩, ⟨['o'], [], .none⟩,
  ⟨['p'], [], .none⟩, ⟨['t'], [], .none⟩, ⟨['u'], [], .none⟩, ⟨['v'], [], .none⟩,
  ⟨['x'], [], .none⟩, ⟨['C'], [], .none⟩, ⟨['F'], [], .none⟩, ⟨['S'], [], .none⟩,
  ⟨['U'], [], .none⟩, ⟨['X'], [], .none⟩, ⟨['1'], [], .none⟩]

def orderNames : List (Order × List String) := [(.none, ["none"]), (.time, ["time"]),
  (.size, ["size"]), (.extension, ["extension"]), (.version, ["version"]), (.width, ["width"])]

def formatNames : List (Format × List String) := [(.long, ["verbose", "long"]),
  (.commas, ["commas"]), (.horizontal, ["horizontal", "across"]), (.vertical, ["vertical"]),
  (.single, ["single-column"])]

def marksNames : List (Marks × List String) := [(.none, ["none"]), (.slash, ["slash"]),
  (.types, ["file-type"]), (.classify, ["classify"])]

def quotingNames : List (Quoting × List String) := [(.literal, ["literal"]),
  (.shell false false, ["shell"]), (.shell true false, ["shell-always"]),
  (.shell false true, ["shell-escape"]), (.shell true true, ["shell-escape-always"]),
  (.c true, ["c"]), (.c false, ["c-maybe"]), (.escape, ["escape"]), (.marked '\'', ["locale"]),
  (.marked '"', ["clocale"])]

def clockNames : List (Clock × List String) := [(.accessed, ["atime", "access", "use"]),
  (.changed, ["ctime", "status"]), (.modified, ["mtime", "modification"]),
  (.made, ["birth", "creation"])]

def whenNames : List (Bool × List String) := [(true, ["always", "yes", "force"]),
  (false, ["never", "no", "none"]), (false, ["auto", "tty", "if-tty"])]

/-- The largest number that is taken for a width. -/
def maxWidth : Nat := 0x7FFFFFFFFFFFFFFF

/-- Reads a number without a sign. -/
def number? (text : Octets) : Option Nat :=
  match Numeral.read? text with
  | some ⟨.ofNat n, []⟩ => if '-' ∈ text then none else some n
  | _ => none

/-- Reads the width of lines. Without limit it is 0. -/
def width? (text : Octets) : Option Nat :=
  (number? text).map fun n => if n ≤ maxWidth then n else 0

/-- Reads the option that says how sizes are written. -/
def readScale (text : Octets) : Tool Scale := do
  let fail (front behind : String) : Tool Scale :=
    Tool.fail (α := Scale) 2 (front.toList ++ "--block-size argument '".toList ++ text ++
      '\'' :: behind.toList)
  match Scale.read? text with
  | .ok s => return s
  | .error .malformed => fail "invalid " ""
  | .error .suffix => fail "invalid suffix in " ""
  | .error .tooLarge => fail "" " too large"

/-- Whether an option that may say when it counts is to count here. -/
def isAsked (o : Choice) : Tool Bool := do
  if o.hasArgument then Tool.word ("--" ++ o.key) whenNames o.argument else return true

/-- The settings with an option added. -/
def choose (s : Settings) (o : Choice) : Tool Settings := do
  match o.key with
  | "a" => return { s with hidden := .all }
  | "A" => return { s with hidden := .almostAll }
  | "author" => return { s with author := true }
  | "b" => return { s with quoting := some .escape }
  | "B" => return { s with ignored := s.ignored ++ ["*~".toList, ".*~".toList] }
  | "block-size" => return { s with scale := some (← readScale o.argument) }
  | "c" => return { s with clock := .changed }
  | "C" => return { s with format := .vertical }
  | "d" => return { s with directories := true }
  | "D" => return { s with indexed := true }
  | "f" =>
    return { s with
      hidden := .all, order := some .none, coloured := false, blocks := false
      format := if s.format = .long then .single else s.format }
  | "F" => return { s with marks := .classify }
  | "classify" => return if ← isAsked o then { s with marks := .classify } else s
  | "color" => return { s with coloured := ← isAsked o }
  | "file-type" => return { s with marks := .types }
  | "g" => return { s with format := .long, owner := false }
  | "G" => return { s with group := false }
  | "h" => return { s with scale := some { automatic := true, named := true, binary := true } }
  | "si" => return { s with scale := some { automatic := true, named := true } }
  | "H" => return { s with following := some .operands }
  | "dereference-command-line-symlink-to-dir" =>
    return { s with following := some .directoryOperands }
  | "hyperlink" =>
    discard <| isAsked o
    return s
  | "i" => return { s with inodes := true }
  | "I" => return { s with ignored := o.argument :: s.ignored }
  | "hide" => return { s with unlisted := o.argument :: s.unlisted }
  | "k" => return { s with kibibytes := true }
  | "l" => return { s with format := .long }
  | "L" => return { s with following := some .always }
  | "m" => return { s with format := .commas }
  | "n" => return { s with format := .long, numeric := true }
  | "N" => return { s with quoting := some .literal }
  | "o" => return { s with format := .long, group := false }
  | "p" => return { s with marks := .slash }
  | "q" => return { s with masked := true }
  | "show-control-chars" => return { s with masked := false }
  | "Q" => return { s with quoting := some (.c true) }
  | "r" => return { s with reverse := true }
  | "R" => return { s with recursive := true }
  | "s" => return { s with blocks := true }
  | "S" => return { s with order := some .size }
  | "t" => return { s with order := some .time }
  | "T" =>
    match number? o.argument with
    | some n =>
      if n ≤ maxWidth then return { s with tab := some n }
      else Tool.fail 2 ("invalid tab size: ".toList ++ quoteEscaped o.argument) (some .overflow)
    | none => Tool.fail 2 ("invalid tab size: ".toList ++ quoteEscaped o.argument)
  | "u" => return { s with clock := .accessed }
  | "U" => return { s with order := some .none }
  | "v" => return { s with order := some .version }
  | "w" =>
    match width? o.argument with
    | some n => return { s with width := some n }
    | none => Tool.fail 2 ("invalid line width: ".toList ++ quoteEscaped o.argument)
  | "x" => return { s with format := .horizontal }
  | "X" => return { s with order := some .extension }
  | "Z" => return { s with context := true }
  | "1" => return if s.format = .long then s else { s with format := .single }
  | "sort" => return { s with order := some (← Tool.word "--sort" orderNames o.argument) }
  | "format" => return { s with format := ← Tool.word "--format" formatNames o.argument }
  | "indicator-style" =>
    return { s with marks := ← Tool.word "--indicator-style" marksNames o.argument }
  | "quoting-style" =>
    return { s with quoting := some (← Tool.word "--quoting-style" quotingNames o.argument) }
  | "time" => return { s with clock := ← Tool.word "--time" clockNames o.argument }
  | "time-style" => return { s with stamp := some o.argument }
  | "full-time" => return { s with format := .long, stamp := some "full-iso".toList }
  | "group-directories-first" => return { s with directoriesFirst := true }
  | "zero" =>
    return { s with
      terminator := '\x00', masked := false, quoting := some .literal, coloured := false
      format := if s.format = .long then .long else .single }
  | _ => return s

/-- How times are written: those that are long past or to come, and recent ones. -/
structure Stamps where
  usual : Octets := "%b %e  %Y".toList
  recent : Octets := "%b %e %H:%M".toList

/-- Ways to write times, by name. -/
def stampNames : List (String × Stamps) := [
  ("full-iso", ⟨"%Y-%m-%d %H:%M:%S.%N %z".toList, "%Y-%m-%d %H:%M:%S.%N %z".toList⟩),
  ("long-iso", ⟨"%Y-%m-%d %H:%M".toList, "%Y-%m-%d %H:%M".toList⟩),
  ("iso", ⟨"%Y-%m-%d ".toList, "%m-%d %H:%M".toList⟩), ("locale", {})]

/-- Reads how times are written: a name, or one format or two behind a plus. -/
def readStamps (style : Octets) : Tool Stamps := do
  if (after? "posix-".toList style).isSome then return {}
  match style with
  | '+' :: formats =>
    match Text.cut '\n' formats with
    | [usual, recent] => return ⟨usual, recent⟩
    | [usual] => return ⟨usual, usual⟩
    | _ => Tool.fail 2 ("invalid time style format ".toList ++ quoteEscaped formats)
  | _ =>
    let near := stampNames.filter fun (name, _) => (after? style name.toList).isSome
    match stampNames.find? fun (name, _) => name.toList = style, near with
    | some (_, stamps), _ | none, [(_, stamps)] => return stamps
    | none, _ =>
      let how := if near = [] then "invalid" else "ambiguous"
      Tool.complain (how.toList ++ " argument ".toList ++ quoteEscaped style ++
        " for 'time style'".toList)
      Tool.tell "Valid arguments are:".toList
      for (name, _) in stampNames do Tool.tell ("  - [posix-]".toList ++ name.toList)
      Tool.tell "  - +FORMAT (e.g., +%H:%M) for a 'date'-style format".toList
      Tool.pointToHelp 2

/-- A warning about an environment variable that is not heeded. -/
def warn (what name : String) (value : Octets) : Tool Unit :=
  Tool.complain ("ignoring invalid ".toList ++ what.toList ++ " environment variable ".toList ++
    name.toList ++ ": ".toList ++ quoteEscaped value)

/-- The value that a word stands for, if it is clear which one. -/
def meaning? {α : Type} [BEq α] (table : List (α × List String)) (word : Octets) : Option α :=
  let all := table.flatMap fun (a, names) => names.map (·, a)
  match all.find? (·.1.toList = word),
      all.filter fun (n, _) => (after? word n.toList).isSome with
  | some (_, a), _ => some a
  | none, (_, a) :: others => if others.all (·.2 == a) then some a else none
  | none, [] => none

/-- The settings with what the environment says about all that options have left open. -/
def Settings.complete (s : Settings) : Tool Settings := do
  let p ← read
  let arranged := s.format = .vertical || s.format = .horizontal || s.format = .commas
  let width ← match s.width, p.getenv? "COLUMNS" with
    | some n, _ => pure n
    | none, some (c :: cs) =>
      if !arranged && !s.coloured then pure 80
      else
        match width? (c :: cs) with
        | some n => pure n
        | none =>
          warn "width in" "COLUMNS" (c :: cs)
          pure 80
    | none, _ => pure 80
  let tab ← match s.tab, p.getenv? "TABSIZE" with
    | some n, _ => pure n
    | none, some text =>
      if !arranged then pure 8
      else
        match number? text with
        | some n => pure n
        | none =>
          warn "tab size in" "TABSIZE" text
          pure 8
    | none, none => pure 8
  let quoting ← match s.quoting, p.getenv? "QUOTING_STYLE" with
    | some q, _ => pure q
    | none, some word =>
      match meaning? quotingNames word with
      | some q => pure q
      | none =>
        warn "value of" "QUOTING_STYLE" word
        pure .literal
    | none, none => pure .literal
  let order := s.order.getD <|
    if s.format ≠ .long && s.clock ≠ .modified then .time else .name
  return { s with
    width := some width, tab := some tab, quoting := some quoting, order := some order
    following := some (s.following.getD <|
      if s.directories || s.marks = .classify || s.format = .long then .never
      else .directoryOperands)
    indexed := s.indexed && s.format = .long }

end Listing

end LineShell.Unix
