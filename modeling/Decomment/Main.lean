import Decomment.Cli.Invoke

/-!
The program on the real file system.

The file operations of the stripper run as system calls, paths taken from the current
directory, and a failed call is known by its error number. The program is the build without
TOML configs and without directory stripping: it reads the command line, prints what the run
prints, and exits with its code.
-/

namespace Decomment.Files

/-- The error number of a failed system call, if it has one. -/
def errorNumber? : IO.Error → Option Nat
  | .alreadyExists _ code _ | .otherError code _ | .resourceBusy code _
  | .resourceVanished code _ | .unsupportedOperation code _ | .hardwareFault code _
  | .unsatisfiedConstraints code _ | .illegalOperation code _ | .protocolError code _
  | .timeExpired code _ | .interrupted _ code _ | .noFileOrDirectory _ code _
  | .invalidArgument _ code _ | .permissionDenied _ code _ | .resourceExhausted _ code _
  | .inappropriateType _ code _ | .noSuchThing _ code _ => some code.toNat
  | _ => none

/-- The file error of a failed system call. -/
def ioErrorOf (e : IO.Error) : IoError :=
  IoError.ofCode ((errorNumber? e).getD 5)

/-- Runs a system call, keeping its failure as a value. -/
def attempt {α : Type} (action : IO α) : IO (Except IoError α) := do
  try return .ok (← action)
  catch e => return .error (ioErrorOf e)

instance : FileSystem IO where
  readBytes path :=
    if hasNul path then return .error .nulInPath
    else attempt do return (← IO.FS.readBinFile path).toList
  writeBytes path bytes :=
    if hasNul path then return .error .nulInPath
    else attempt (IO.FS.writeBinFile path ⟨bytes.toArray⟩)
  isFile path := do
    if hasNul path then return false
    let here ← IO.currentDir
    let target := if path.startsWith "/" then ⟨path⟩ else here / path
    match ← (attempt target.metadata) with
    | .ok info => return info.type == .file
    | .error _ => return false
  listDir path :=
    if hasNul path then return .error .nulInPath
    else attempt do
      let here ← IO.currentDir
      let target := if path.startsWith "/" then ⟨path⟩ else here / path
      return ((← target.readDir).map (·.fileName)).toList

end Decomment.Files

open Decomment

/-- Runs the program on its command line. -/
def main (args : List String) : IO UInt32 := do
  let outcome ← Cli.execute { toml := false, batch := false } args
  let stdout ← IO.getStdout
  stdout.putStr outcome.stdout
  stdout.flush
  let stderr ← IO.getStderr
  stderr.putStr outcome.stderr
  stderr.flush
  return outcome.exitCode.toUInt32
