import Bracework.CommandLine.Run

/-!
# The program

Reads files from disk, writes the two streams and sets the exit status. What is written and
which status is set is decided elsewhere.
-/

namespace Bracework

namespace Program

/-- Why reading a file failed, as far as the system says. -/
def faultOf (error : IO.Error) : FileFault :=
  match error with
  | .noFileOrDirectory _ _ _ => .notFound
  | .permissionDenied _ _ _ => .permissionDenied
  | .inappropriateType _ _ _ => .isDirectory
  | other => .other (toString other).toList

/-- The bytes of a file. -/
def readBytes (path : String) : IO (Except FileFault (List UInt8)) := do
  match ← (IO.FS.readBinFile path).toBaseIO with
  | .ok bytes => return .ok bytes.toList
  | .error error => return .error (faultOf error)

/-- The contents of the files that a command line may ask for. -/
def readFiles (words : List Text) : IO FileSystem := do
  let paths := match Invocation.ofWords words with
    | .ok invocation => invocation.files
    | .error _ => []
  let contents ← paths.mapM fun path => return (path, ← readBytes (String.ofList path))
  return fun path => (contents.lookup path).getD (.error .notFound)

end Program

end Bracework

/-- Reads the files first, runs the command, and writes what it gives. -/
def main (arguments : List String) : IO UInt32 := do
  let words := arguments.map String.toList
  let outcome := Bracework.Outcome.ofWords (← Bracework.Program.readFiles words) words
  IO.print (String.ofList outcome.output)
  IO.eprint (String.ofList outcome.errors)
  return UInt32.ofNat outcome.status
