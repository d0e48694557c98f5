import LineShell.Unix.Scripting.Arithmetic
import LineShell.Unix.Scripting.Pathname

/-! What words become. First every part is replaced by bytes that remember whether they were quoted,
in spans that remember whether they may be split; then the spans are split into fields, and fields
with special bytes into the paths that match them. -/

namespace LineShell.Unix.Scripting

/-- A byte of an expanded word. -/
inductive Glyph
  | bare (c : Char)
  | exact (c : Char)
  | mark
  deriving DecidableEq, Repr

/-- Where a span may be split. -/
inductive Splitting
  | never
  | atSeparators
  /-- Only between the parameters that it was made of. -/
  | atGaps
  deriving DecidableEq, Repr

/-- Bytes that came from one part of a word. -/
structure Span where
  splitting : Splitting
  glyphs : List Glyph

namespace Glyph

/-- The byte, if there is one. -/
def char? : Glyph → Option Char
  | bare c | exact c => some c
  | mark => none

/-- The bytes of glyphs. -/
def text (gs : List Glyph) : Octets := gs.filterMap char?

/-- Glyphs as a pattern. A byte that was quoted stands for itself, unless it stands behind a
backslash and does so already. -/
def pattern (gs : List Glyph) : Octets := go false gs
where
  go (escaped : Bool) : List Glyph → Octets
    | [] => []
    | mark :: rest => go escaped rest
    | bare c :: rest => c :: go (c == '\\') rest
    | exact c :: rest => if escaped then c :: go false rest else '\\' :: c :: go false rest

end Glyph

namespace Span

/-- A byte between parameters. -/
def gap : Char := '\x00'

def isBlank (c : Char) : Bool := c == ' ' || c == '\t' || c == '\n' || c == gap

/-- Fields that are complete, the last one first, and the glyphs of the next one, the last one
first. -/
structure Fields where
  complete : List (List Glyph) := []
  current : List Glyph := []

/-- Takes the separators off that belong to one that ended a field: blanks, and another one if there
were only blanks so far. -/
def skip (ifs : Octets) (blanks : Bool) : List Glyph → List Glyph × Bool
  | [] => ([], blanks)
  | g :: rest =>
    match g.char? with
    | none => (g :: rest, blanks)
    | some c =>
      if !(c == gap || ifs.contains c) then (g :: rest, blanks)
      else if isBlank c then skip ifs blanks rest
      else if blanks then skip ifs false rest
      else (g :: rest, blanks)

theorem length_skip_le (ifs : Octets) (blanks : Bool) (gs : List Glyph) :
    (skip ifs blanks gs).1.length ≤ gs.length := by
  induction gs generalizing blanks with
  | nil => simp [skip]
  | cons g rest ih =>
    simp only [skip]
    split
    · simp
    · split
      · simp
      · split
        · exact Nat.le_succ_of_le (ih _)
        · split
          · exact Nat.le_succ_of_le (ih _)
          · simp

/-- Splits one span. Behind a span that is split at gaps, no separator is passed over in front of a
field. -/
def cut (ifs : Octets) (gaps afterGaps blanks : Bool) (f : Fields) : List Glyph → Fields
  | [] => f
  | g :: rest =>
    match g.char? with
    | none => cut ifs gaps afterGaps blanks { f with current := g :: f.current } rest
    | some c =>
      if !(c == gap || !gaps && ifs.contains c) then
        cut ifs gaps afterGaps blanks { f with current := g :: f.current } rest
      else
        let blanks := if afterGaps || gaps then blanks else isBlank c
        if f.current.isEmpty && blanks then cut ifs gaps afterGaps false f rest
        else
          let f : Fields := { complete := f.current.reverse :: f.complete }
          if gaps then cut ifs gaps afterGaps blanks f rest
          else
            let skipped := skip ifs blanks rest
            cut ifs gaps afterGaps skipped.2 f skipped.1
termination_by gs => gs.length
decreasing_by
  · simp
  · simp
  · simp
  · simp
  · exact Nat.lt_succ_of_le (length_skip_le _ _ _)

/-- Splits spans into fields. An empty field at the end counts only behind a gap. -/
def fields (ifs : Octets) (spans : List Span) : List (List Glyph) :=
  let (f, gaps) := spans.foldl (fun (f, afterGaps) span =>
    match span.splitting with
    | .never => ({ f with current := span.glyphs.reverse ++ f.current }, afterGaps)
    | splitting =>
      let gaps := splitting == .atGaps
      (cut ifs gaps afterGaps false f span.glyphs, gaps)) (({} : Fields), false)
  (if gaps || !f.current.isEmpty then f.current.reverse :: f.complete else f.complete).reverse

end Span

/-- Where a word stands. -/
structure Setting where
  /-- It becomes any number of fields. -/
  splits : Bool := false
  quoted : Bool := false
  /-- It is what a parameter is replaced by. -/
  replaces : Bool := false
  /-- Home directories are looked for behind the first equals sign and behind colons. -/
  assigns : Bool := false
  /-- The equals sign has been passed. -/
  assigned : Bool := false

/-- A word while it is being expanded: its spans, the last one first. -/
abbrev Spans := List Span

/-- Adds a glyph that is not split. -/
def Spans.add (spans : Spans) (g : Glyph) : Spans := ⟨.never, [g]⟩ :: spans

/-- Adds a byte that may be split off, perhaps to the bytes before. -/
def Spans.addBare (spans : Spans) (joins : Bool) (c : Char) : Spans :=
  match joins, spans with
  | true, span :: rest => { span with glyphs := span.glyphs ++ [.bare c] } :: rest
  | _, _ => ⟨.atSeparators, [.bare c]⟩ :: spans

/-- The text of all spans. -/
def Spans.text (spans : Spans) : Octets := Glyph.text (spans.reverse.flatMap (·.glyphs))

namespace Run

/-- The parameters joined as they are where they stand. -/
def joinedParameters (each splits quoted : Bool) : Run Octets := do
  let params := (← state).params
  let ifs ← value? "IFS".toList
  let separator : Octets :=
    if each && quoted && splits then [Span.gap]
    else if splits && !quoted then [if ifs.isSome then Span.gap else ' ']
    else
      match ifs with
      | none => [' ']
      | some ifs => ifs.take 1
  return separator.intercalate params

/-- The value of a parameter. -/
def parameter? (s : Setting) (quoted : Bool) (name : Octets) : Run (Option Octets) := do
  let st ← state
  match name with
  | ['@'] => return some (← joinedParameters true s.splits quoted)
  | ['*'] => return some (← joinedParameters false s.splits quoted)
  | ['#'] => return some (Text.ofNat st.params.length)
  | ['?'] => return some (Text.ofNat st.status)
  | ['$'] => return some (Text.ofNat st.main)
  | ['!'] => return st.last.map Text.ofNat
  | ['-'] => return some st.optionLetters
  | c :: _ =>
    if Octets.isDigit c then
      let n := (Octets.digits 10 0 name).1
      return if n = 0 then some st.name else st.params[n - 1]?
    else value? name
  | [] => return none

/-- Stops at a parameter that is not set. -/
def unset {α : Type} (name : Octets) (message : Octets := "parameter not set".toList) : Run α :=
  fail (name ++ ": ".toList ++ message)

/-- The home directory of a user, or of whoever runs the script. -/
def home? (user : Octets) : Run (Option Octets) :=
  if user = [] then value? "HOME".toList
  else return if user = "root".toList then some "/root".toList else none

/-- A value as a span. -/
def spanOf (name : Octets) (quoted : Bool) (value : List Char) : Run Span := do
  if !quoted then return ⟨.atSeparators, value.map .bare⟩
  else
    let gaps := name = ['@'] ∧ !(← state).params.isEmpty
    return ⟨if gaps then .atGaps else .never, value.map .exact⟩

/-- What is left of a value after the part of it that matches a pattern was cut off. A part that is
compared with the pattern ends where a parameter ends, but all that follows is cut off with it. -/
def trimmed (suffix longest : Bool) (pattern : Octets) (value : Octets) : Octets :=
  let inOne (text : Octets) : Octets := text.takeWhile (· ≠ Span.gap)
  let places := if suffix = longest then List.range ((inOne value).length + 1)
    else (List.range (value.length + 1)).reverse
  let place := places.find? fun i =>
    Pattern.isMatch pattern (inOne (if suffix then value.drop i else value.take i))
  match place with
  | none => value
  | some i => if suffix then value.take i else value.drop i

/-- The user whose home directory is meant behind a tilde. -/
def tilde? (colon : Bool) (behind : Word) : Option Octets :=
  Word.plain? (behind.takeWhile fun
    | .plain c => c != '/' && !(colon && c == ':')
    | _ => true)

/-- Where the parts of a word are being expanded. -/
structure Spot where
  /-- A tilde here stands for a home directory. -/
  start : Bool := false
  /-- Inside quotes of the word itself. -/
  quoted : Bool := false
  /-- So many bytes have been dealt with already. -/
  passed : Nat := 0
  /-- There were bytes just before that may be split. -/
  joins : Bool := false

/-- Expands the parts of a word. -/
def expandParts (output : Option Command → Run Octets) (s : Setting) (spans : Spans) (spot : Spot) :
    Word → Run Spans
  | [] => return spans
  | .mark :: rest => do
    let usual := expandParts output s (spans.add .mark) { quoted := !spot.quoted } rest
    if spot.quoted then usual
    else
      match rest with
      | .parameter ['@'] .value false _ :: .mark :: behind =>
        let value ← joinedParameters true s.splits true
        let spans := if (← state).params.isEmpty then spans
          else ⟨.atGaps, value.map .exact⟩ :: spans
        expandParts output s spans {} behind
      | _ => usual
  | .quoted c :: rest =>
    expandParts output s (spans.add (.exact c)) { quoted := spot.quoted } rest
  | .plain c :: rest => do
    match spot.passed with
    | n + 1 => expandParts output s spans { spot with passed := n } rest
    | 0 =>
      let user := if c = '~' ∧ spot.start then tilde? s.assigns rest else none
      let home ← match user with
        | some user => home? user
        | none => pure none
      match home with
      | some home =>
        let spans := home.foldl (fun spans c => spans.add (.exact c)) spans
        expandParts output s spans { quoted := spot.quoted, passed := (user.getD []).length } rest
      | none =>
        let joins := s.replaces && !s.quoted && !spot.quoted
        let spans := if joins then spans.addBare spot.joins c else spans.add (.bare c)
        let start := s.assigns && (c == ':' || c == '=' && !s.assigned)
        let s := if c = '=' then { s with assigned := true } else s
        expandParts output s spans { start, quoted := spot.quoted, joins } rest
  | .command body :: rest => do
    let bytes := (← output body).filter (· ≠ '\x00')
    let bytes := (bytes.reverse.dropWhile (· = '\n')).reverse
    let inQuotes := s.quoted || spot.quoted
    let span : Span := if inQuotes then ⟨.never, bytes.map .exact⟩
      else ⟨.atSeparators, bytes.map .bare⟩
    expandParts output s (span :: spans) { quoted := spot.quoted } rest
  | .arithmetic expression :: rest => do
    let inQuotes := s.quoted || spot.quoted
    let text ← expandParts output {} [] {} expression
    let value := Octets.ofInt (← calculate text.text)
    let span ← spanOf [] inQuotes value
    expandParts output s (span :: spans) { quoted := spot.quoted } rest
  | .parameter name use orEmpty w :: rest => do
    let inQuotes := s.quoted || spot.quoted
    let value ← parameter? s inQuotes name
    let usable := value.isSome && !(orEmpty && value = some [])
    let strict ← isOn "nounset"
    let span (value : Option Octets) : Run Spans := do
      match value with
      | some v => return (← spanOf name inQuotes v) :: spans
      | none => if strict then unset name else return spans
    let inner := { s with quoted := inQuotes, replaces := true }
    match use with
    | .unknown => fail "Bad substitution".toList
    | .value =>
      let spans ← span value
      if orEmpty then expandParts output s spans { quoted := spot.quoted } w
      else expandParts output s spans { quoted := spot.quoted } rest
    | .size =>
      if value.isNone ∧ strict then unset (α := Unit) name
      let span ← spanOf name inQuotes (Text.ofNat (value.getD []).length)
      expandParts output s (span :: spans) { quoted := spot.quoted } rest
    | .orElse =>
      let spans ← if usable then span value
        else expandParts output inner spans { start := true } w
      expandParts output s spans { quoted := spot.quoted } rest
    | .instead =>
      let spans ← if usable then expandParts output inner spans { start := true } w
        else if inQuotes then pure spans else pure (⟨.atSeparators, []⟩ :: spans)
      expandParts output s spans { quoted := spot.quoted } rest
    | .assign =>
      let spans ← if usable then span value
        else do
          let text ← expandParts output {} [] { start := true } w
          setVariable name (some text.text)
          span (← parameter? s inQuotes name)
      expandParts output s spans { quoted := spot.quoted } rest
    | .demand =>
      let spans ← if usable then span value
        else do
          let text ← expandParts output {} [] { start := true } w
          let message := if !w.isEmpty then text.text
            else "parameter not set".toList ++ if orEmpty then " or null".toList else []
          unset name message
      expandParts output s spans { quoted := spot.quoted } rest
    | .trim suffix longest =>
      match value with
      | none => expandParts output s (← span none) { quoted := spot.quoted } rest
      | some v =>
        let pattern ← expandParts output {} [] { start := true } w
        let pattern := Glyph.pattern (pattern.reverse.flatMap (·.glyphs))
        let spans ← span (some (trimmed suffix longest pattern v))
        expandParts output s spans { quoted := spot.quoted } rest

/-- Expands a word. -/
def expand (output : Option Command → Run Octets) (s : Setting) (w : Word) : Run Spans :=
  return (← expandParts output s [] { start := !s.quoted && !s.assigns } w).reverse

/-- A word that becomes one text. -/
def expandText (output : Option Command → Run Octets) (w : Word) : Run Octets :=
  return Glyph.text ((← expand output {} w).flatMap (·.glyphs))

/-- A word that becomes a pattern. -/
def expandPattern (output : Option Command → Run Octets) (w : Word) : Run Octets :=
  return Glyph.pattern ((← expand output {} w).flatMap (·.glyphs))

/-- An assignment. -/
def expandAssignment (output : Option Command → Run Octets) (w : Word) : Run Octets :=
  return Glyph.text ((← expand output { assigns := true } w).flatMap (·.glyphs))

/-- A here-document. -/
def expandDocument (output : Option Command → Run Octets) (w : Word) : Run Octets :=
  return Glyph.text ((← expand output { quoted := true } w).flatMap (·.glyphs))

/-- The paths that a field stands for; a field that matches nothing stands for itself. -/
def pathsOf (field : List Glyph) : Run (List Octets) := do
  let special := field.any fun
    | .bare c | .exact c => c == '*' || c == '?' || c == '['
    | .mark => false
  if !special || (← isOn "noglob") then return [Glyph.text field]
  match Pattern.paths (← files) (← state).self.dir (Glyph.pattern field) with
  | [] => return [Glyph.text field]
  | all => return all

/-- A word that becomes any number of arguments. The parameters between quotes become arguments as
they are. -/
def expandFields (output : Option Command → Run Octets) (w : Word) : Run (List Octets) := do
  match w with
  | [.mark, .parameter ['@'] .value false _, .mark] => return (← state).params
  | _ =>
    let spans ← expand output { splits := true } w
    let ifs := (← value? "IFS".toList).getD " \t\n".toList
    return (← (Span.fields ifs spans).mapM pathsOf).flatten

end Run

end LineShell.Unix.Scripting
