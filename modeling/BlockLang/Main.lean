import BlockLang.Console.Run

set_option relaxedAutoImplicit false
set_option autoImplicit false

/-!
# The command line

Reads what a run asks for, and prints what it leaves.
-/

namespace BlockLang.Console

/-- All that is left to read from a stream, after what has been read. -/
partial def readAll (stream : IO.FS.Stream) (before : ByteArray) : IO ByteArray := do
  let block ← stream.read 65536
  if block.isEmpty then return before else readAll stream (before ++ block)

/-- The reason for which a file cannot be read. -/
def readFailure : IO.Error → String
  | .noFileOrDirectory _ _ _ => noSuchFile
  | .permissionDenied _ _ _ => "Permission denied (os error 13)"
  | .inappropriateType _ _ _ => "Is a directory (os error 21)"
  | error => toString error

/-- The content of a file, or the reason for which it cannot be read. -/
def readFile (name : String) : IO (Except String ByteArray) := do
  try
    return .ok (← IO.FS.readBinFile name)
  catch error =>
    return .error (readFailure error)

/-- All that the arguments ask to be read. -/
def environment (args : List String) : IO Environment := do
  match Request.ofArguments args with
  | .task ⟨.stdin, _, _⟩ =>
    let content ← readAll (← IO.getStdin) .empty
    return ⟨args, content, fun _ => .error noSuchFile⟩
  | .task ⟨.file name, _, _⟩ =>
    let content ← readFile name
    return ⟨args, .empty, fun _ => content⟩
  | _ => return ⟨args, .empty, fun _ => .error noSuchFile⟩

end BlockLang.Console

/-- Runs the command line. -/
def main (args : List String) : IO UInt32 := do
  let outcome := BlockLang.Console.run (← BlockLang.Console.environment args)
  (← IO.getStdout).putStr outcome.stdout
  (← IO.getStderr).putStr outcome.stderr
  return outcome.exit.toUInt32
