import LineShell.Highlight
import LineShell.Host.Basic

/-! Colour support. Whether reports are coloured follows from the environment alone: a wish for no
colour goes first, then what is known of the terminal, then a wish for colour. -/

namespace LineShell

namespace Text

/-- The lower case of a character, as far as it has ASCII letters in it. Beside the ASCII capitals
these are the dotted capital I, which keeps its dot as a mark, and the Kelvin sign. -/
def lower (c : Char) : Text :=
  if c = '\u0130' then ['i', '\u0307'] else if c = '\u212A' then ['k'] else [c.toLower]

/-- Whether a text holds another one as a stretch of it. -/
def includes (t part : Text) : Bool :=
  part.isPrefixOf t ||
    match t with
    | [] => false
    | _ :: rest => includes rest part

end Text

namespace Highlighter

/-- Terminals that show every colour, by a stretch of their lower-case name. -/
def trueColourTerminals : List Text := [
  "xterm-truecolor".toList, "konsole".toList, "tmux".toList, "screen-truecolor".toList,
  "alacritty".toList, "kitty".toList, "terminator".toList, "terminology".toList,
  "eterm".toList, "rxvt-unicode".toList, "xterm-ghostty".toList, "vte".toList,
  "termious".toList]

/-- Terminals that show some colours, by a stretch of their lower-case name. -/
def colourTerminals : List Text := [
  "256".toList, "color".toList, "ansi".toList, "xterm".toList, "screen".toList]

/-- Terminal programs that show every colour, by name. -/
def trueColourPrograms : List Text := [
  "iTerm.app".toList, "Apple_Terminal".toList, "Hyper".toList]

/-- Whether the environment describes a terminal that shows colours. -/
def supported (env : Environment) : Bool :=
  let colour := (env.get? "COLORTERM".toList).getD []
  let terminal := ((env.get? "TERM".toList).getD []).flatMap Text.lower
  Text.includes colour "truecolor".toList || Text.includes colour "24bit".toList ||
    (trueColourTerminals ++ colourTerminals).any (Text.includes terminal) ||
    (env.get? "TERM_PROGRAM".toList).any (trueColourPrograms.contains ·)

/-- Looks for colour support in the environment. -/
def detect (env : Environment) : Highlighter where
  coloured :=
    if (env.get? "NO_COLOR".toList).isSome then false
    else if env.get? "CLICOLOR".toList = some "0".toList then false
    else supported env || env.get? "CLICOLOR_FORCE".toList = some "1".toList

end Highlighter

end LineShell
