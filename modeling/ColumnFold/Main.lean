import ColumnFold.Command.Run

/-!
# The command line program

All decisions are made by `Program.run`; here its inputs are fetched and its outputs written.
-/

set_option autoImplicit false

namespace ColumnFold

/-- Reads a stream to its end. -/
partial def readToEnd (stream : IO.FS.Stream) (read : ByteArray) : IO ByteArray := do
  let chunk ← stream.read 65536
  if chunk.isEmpty then return read else readToEnd stream (read ++ chunk)

/-- Looks up what stands behind the name of a file. -/
def fetch (name : String) : IO Source := do
  if ← (System.mkFilePath [name]).isDir then return .directory
  try
    return .content (← IO.FS.readBinFile name).toList
  catch
    | .noFileOrDirectory .. => return .missing
    | .inappropriateType .. => return .unusable .throughFile
    | e => throw e

end ColumnFold

open ColumnFold in
/-- Runs the command under the name of the executable. -/
def main (args : List String) : IO UInt32 := do
  let program := Program.ofPath (← IO.appPath).toString
  let names := program.inputs args
  let stdin ← if names.contains stdinName then readToEnd (← IO.getStdin) .empty else pure .empty
  let files ← (names.filter (· != stdinName)).mapM fun name => return (name, ← fetch name)
  match program.run args stdin.toList fun name => (files.lookup name).getD .missing with
  | .ok outcome =>
    (← IO.getStdout).write (ByteArray.mk outcome.stdout.toArray)
    (← IO.getStderr).putStr outcome.stderr
    return outcome.status.toUInt32
  | .error breakdown =>
    (← IO.getStderr).putStr (program.complain breakdown.message)
    return 1
