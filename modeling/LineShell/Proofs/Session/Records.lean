import LineShell.Proofs.Expansion.Records
import LineShell.Proofs.Session.Outcomes
import LineShell.Proofs.Store.History

/-! # Records of a line

A line records its preparation, then its command, and then what the command does to the variables or
how the program ends that it starts. Where a line stops, its records stop. -/

namespace LineShell

/-- The records among the actions of an outcome. -/
def Outcome.records {Files Dir α : Type} (o : Outcome Files Dir α) : List Event :=
  o.actions.filterMap Action.event?

namespace Store

section
variable {s : Store} {line : Text}

end

end Store

/-! ## Records of commands -/

namespace Event

section
variable {command name : Text} {args rest : List Text}

end

end Event

namespace Shell

variable {Files Dir : Type} [Host Files Dir]

section
variable {sh : Shell Files Dir} {words : List Text} {o : Outcome Files Dir Unit}

end

/-! ## Records of lines -/

section
variable {sh : Shell Files Dir} {line : Text}

section
variable {name program : Text} {args words : List Text} {status : ExitStatus}

end

end

end Shell

end LineShell
