import LineShell.Text.Basic

/-! Flags of the command line. Each has a name, a short and a long spelling; arguments are read from
left to right, and the first one that is no spelling of a flag ends the reading with the flags
before it set. -/

namespace LineShell

/-- A flag of the command line. -/
inductive Flag
  | debug
  | help
  | quiet
  | version
  deriving DecidableEq, Repr

namespace Flag

/-- The flags in the order of their names. -/
def all : List Flag := [debug, help, quiet, version]

def name : Flag → Text
  | debug => "debug".toList
  | help => "help".toList
  | quiet => "quiet".toList
  | version => "version".toList

def short : Flag → Text
  | debug => ['-', 'd']
  | help => ['-', 'h']
  | quiet => ['-', 'q']
  | version => ['-', 'v']

def long (flag : Flag) : Text := '-' :: '-' :: flag.name

def description : Flag → Text
  | debug => "Enable debug logging".toList
  | help => "Print this help message".toList
  | quiet => "Don't report command errors".toList
  | version => "Show version information".toList

/-- The flag that an argument spells. -/
def ofArgument? (arg : Text) : Option Flag := all.find? fun f => f.short == arg || f.long == arg

/-- The flag of a name. -/
def ofName? (name : Text) : Option Flag := all.find? (·.name == name)

/-- The line of a flag in the help text. -/
def helpLine (flag : Flag) : Text :=
  "  ".toList ++ flag.short ++ ", ".toList ++ flag.long.rightpad 15 ' ' ++ ' ' ::
    flag.description ++ ['\n']

end Flag

/-- An argument that spells no flag. -/
structure FlagError where
  argument : Text
  deriving DecidableEq, Repr

def FlagError.message (e : FlagError) : Text :=
  "flag error: unknown argument: ".toList ++ e.argument

/-- The flags that are set. -/
structure Flags where
  isSet : Flag → Bool

namespace Flags

/-- No flag is set. -/
def none : Flags := ⟨fun _ => false⟩

instance : Inhabited Flags := ⟨none⟩

/-- Sets a flag. -/
def insert (flags : Flags) (flag : Flag) : Flags := ⟨fun f => f == flag || flags.isSet f⟩

/-- Whether a name is that of a flag that is set. -/
def isSetName (flags : Flags) (name : Text) : Bool := (Flag.ofName? name).any flags.isSet

/-- Sets the flags that arguments spell, up to the first argument that spells none. -/
def parse (flags : Flags) : List Text → Flags × Except FlagError Unit
  | [] => (flags, .ok ())
  | arg :: args =>
    match Flag.ofArgument? arg with
    | some flag => (flags.insert flag).parse args
    | Option.none => (flags, .error ⟨arg⟩)

/-- The help text. -/
def help : Text := "Usage: xsh [OPTIONS]\n\nOptions:\n".toList ++ Flag.all.flatMap Flag.helpLine

/-- The version line. -/
def version : Text := "xsh 0.0.1\n".toList

end Flags

end LineShell
