import Statecharts.CommandLine.Run

/-!
# The program

Carries out the command line on the files of the machine, prints what the command printed, and ends
with its exit code.
-/

namespace Statecharts

def FileError.ofIO : IO.Error → FileError
  | .noFileOrDirectory _ _ _ => .notFound
  | .alreadyExists _ _ _ => .alreadyExists
  | .inappropriateType _ 21 _ => .isDirectory
  | .inappropriateType _ _ _ => .notDirectory
  | error => .other (toString error)

def attempt {α : Type} (action : IO α) : IO (Except FileError α) := do
  return (← action.toBaseIO).mapError FileError.ofIO

instance : FileAccess IO where
  readText path := do
    return (← attempt (IO.FS.readBinFile path)).bind fun bytes =>
      (String.fromUTF8? bytes).elim (.error .invalidUtf8) .ok
  pathExists path := do
    return (← attempt (IO.FS.realPath path)).toOption.isSome
  isDirectory path := do
    return (← attempt (IO.FS.realPath (path ++ "/."))).toOption.isSome && !path.isEmpty
  list path := attempt do
    let directory ← IO.FS.realPath path
    return (← directory.readDir).toList.map (·.fileName)
  createDirectory path := attempt (IO.FS.createDir path)
  writeText path content := attempt (IO.FS.writeFile path content)

end Statecharts

open Statecharts in
def main (arguments : List String) : IO UInt32 := do
  let outcome ← (CommandLine.run arguments : IO Outcome)
  IO.print outcome.stdout
  IO.eprint outcome.stderr
  return outcome.exitCode.toUInt32
