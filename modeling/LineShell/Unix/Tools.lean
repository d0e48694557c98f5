import LineShell.Unix.Tools.Cat
import LineShell.Unix.Tools.Condition
import LineShell.Unix.Tools.Directories
import LineShell.Unix.Tools.Echo
import LineShell.Unix.Tools.Format
import LineShell.Unix.Tools.Listing
import LineShell.Unix.Tools.Remove
import LineShell.Unix.Tools.Touch
import LineShell.Unix.Tools.Translate

/-! The programs of the system, the shell aside. -/

namespace LineShell.Unix

/-- Runs a program other than the shell. -/
def Program.run? (program : Program) (p : Process) : Option (Task ExitStatus) :=
  match program with
  | .bracket => some (Tool.bracket.run p 2)
  | .cat => some (Tool.cat.run p)
  | .echo => some (Tool.echo.run p)
  | .false => some (pure (.code 1))
  | .ls => some (Tool.ls.run p 2)
  | .mkdir => some (Tool.mkdir.run p)
  | .printenv => some (Tool.printenv.run p 2)
  | .printf => some (Tool.printf.run p)
  | .rm => some (Tool.rm.run p)
  | .rmdir => some (Tool.rmdir.run p)
  | .sh => none
  | .test => some (Tool.test.run p 2)
  | .touch => some (Tool.touch.run p)
  | .tr => some (Tool.tr.run p)
  | .true => some (pure (.code 0))

end LineShell.Unix
