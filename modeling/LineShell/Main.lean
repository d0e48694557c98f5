import LineShell.CommandLine
import LineShell.Console.Standard
import LineShell.Unix.System

/-! The command line. The interpreter works on the files of a fresh system, in the root directory,
with arguments, standard streams and part of the environment taken from outside. -/

namespace LineShell

/-- The environment variables that matter to the interpreter and to the system's programs. -/
def environmentNames : List String := [
  "PATH", "LC_ALL", "HOME", "TERM", "TERM_PROGRAM", "COLORTERM", "NO_COLOR", "CLICOLOR",
  "CLICOLOR_FORCE", "RUST_LOG"]

/-- Reads a stream to its end. -/
partial def readAll (stream : IO.FS.Stream) (read : ByteArray) : IO ByteArray := do
  let chunk ← stream.read 65536
  if chunk.isEmpty then return read else readAll stream (read ++ chunk)

end LineShell

open LineShell in
/-- Runs the program and hands on what it wrote and its exit code. -/
def main (args : List String) : IO UInt32 := do
  let vars ← environmentNames.filterMapM fun name =>
    return (← IO.getEnv name).map fun value => (name.toList, value.toList)
  let stdin ← readAll (← IO.getStdin) ByteArray.empty
  let now ← IO.monoMsNow
  let inv : Invocation Unix.FileSystem Unix.Inode := {
    name := Text.encode "xsh".toList
    args := args.map fun arg => arg.toUTF8.toList
    environment := vars
    files := .base
    dir := Unix.FileSystem.root
    stdin := stdin.toList
    stdout := .unlimited }
  let exit := inv.exit (.standard (Text.ofNat now))
  (← IO.getStdout).write ⟨exit.stdout.toArray⟩
  (← IO.getStderr).write ⟨exit.stderr.toArray⟩
  return UInt32.ofNat exit.code
