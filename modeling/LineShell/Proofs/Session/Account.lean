import LineShell.Proofs.Session.Records

/-! # The account of a line

The records of a line tell how far it came. Each record stands for a step that was taken, so a record
that is missing tells which step was the last, and for a program whether it was started and how it
ended. -/

namespace LineShell

/-! ## Shapes -/

namespace Shell

variable {Files Dir : Type} [Host Files Dir]

section
variable {sh : Shell Files Dir} {line program : Text} {args words : List Text} {e : LineError}

end

/-! ## The account -/

section
variable (sh : Shell Files Dir) (line : Text)

variable {sh} {line}

variable (sh) (line)

end

end Shell

end LineShell
