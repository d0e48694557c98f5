import LineShell.CommandLine
import LineShell.Proofs.CommandLine.Flags
import LineShell.Proofs.Input.Lines
import LineShell.Proofs.Loop.Correctness
import LineShell.Proofs.Utf8.Slices

/-! # The contract of the program

With arguments that are no texts the program gives up. Else a bad argument goes before everything, and
the help text goes before the version. If none of them is asked for, the lines of standard input are run
up to the first one that asks for the end, and nothing that happens in a line makes the program fail.
Nothing of this depends on the console. -/

namespace LineShell

namespace Shell

variable {Files Dir : Type} [Host Files Dir]

section
variable {report : LineError → Action} (hreport : ∀ e, (report e).isReport) (sh : Shell Files Dir)
include hreport

end

end Shell

/-! ## The program -/

namespace Invocation

variable {Files Dir : Type} (console : Console) (inv : Invocation Files Dir)

variable [Host Files Dir]

/-! ### Arguments that are texts -/

section
variable {args : List Text}

variable (hargs : ∀ arg ∈ args, arg ∈ Flag.spellings)
include hargs

end

end Invocation

end LineShell
