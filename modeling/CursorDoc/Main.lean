import CursorDoc.Command.Run

/-!
# The program

Reads the files that a command looks at, runs the command, and writes what it
leaves behind. Everything else is decided by `CursorDoc.Command.run`.
-/

namespace CursorDoc

/-- The reason why a file could not be read. Directories are found out when they are read, under
the number 21; files that stand in the place of a directory are found out before. -/
def fileErrorOf : IO.Error → FileError
  | .inappropriateType _ 21 _ => .isDirectory
  | .inappropriateType .. => .notDirectory
  | .invalidArgument .. => .nameTooLong
  | _ => .notFound

def readEntry (path : Path) : IO (Except FileError Entry) := do
  match ← (IO.FS.readBinFile (String.ofList path.text)).toBaseIO with
  | .ok content => return .ok (.file content.toList)
  | .error error =>
    match fileErrorOf error with
    | .isDirectory => return .ok .directory
    | reason => return .error reason

def perform (outcome : Outcome) : IO UInt32 := do
  if let some (path, content) := outcome.written then
    IO.FS.writeBinFile (String.ofList path.text) ⟨content.toArray⟩
  (← IO.getStdout).putStr (String.ofList outcome.stdout)
  (← IO.getStderr).putStr (String.ofList outcome.stderr)
  return outcome.status.toUInt32

end CursorDoc

open CursorDoc in
def main (args : List String) : IO UInt32 := do
  match Command.ofArguments (args.map String.toList) with
  | .error exit =>
    (← IO.getStderr).putStrLn "Usage: (locate | insert | languages) FILE LINE, with options"
    return exit.status.toUInt32
  | .ok command =>
    let entries ← command.paths.mapM fun path => return (path, ← readEntry path)
    perform (command.run (.ofEntries entries))
