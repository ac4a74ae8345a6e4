import SafeReadme.Command.Run

/-!
# The command line

Reads the files that the arguments name, and prints the outcome.
-/

open SafeReadme

def readFile (path : String) : IO (Except FileProblem ByteArray) := do
  try
    return .ok (← IO.FS.readBinFile path)
  catch
    | .inappropriateType .. => return .error .isDirectory
    | _ => return .error .missing

def readFiles (arguments : List String) : IO Files := do
  match Request.ofArguments arguments with
  | .render command =>
      let paths := command.readme :: command.config.toList
      let contents ← paths.mapM fun path => return (path, ← readFile path)
      return fun path => (contents.lookup path).getD (.error .missing)
  | _ => return fun _ => .error .missing

def main (arguments : List String) : IO UInt32 := do
  let outcome := Outcome.ofArguments arguments (← readFiles arguments)
  (← IO.getStdout).putStr outcome.stdout
  (← IO.getStderr).putStr outcome.stderr
  return outcome.code.toUInt32
