import Decomment.Strip
import Decomment.Report
import Decomment.Settings
import Decomment.Failure
import Decomment.Files.System

/-!
Running the stripper on files.

`runPaths` reads a source as UTF-8, strips it and writes the result, creating or truncating the
output, and reports the output path and the line counts. The source is read before anything is
written, so a source that cannot be read leaves every file as it was. `run` takes both paths from
the settings.
-/

namespace Decomment

open Decomment.Files

variable {m : Type → Type} [Monad m] [FileSystem m]

/-- Strips a source that has been read and writes the result. -/
def writeStripped (keepPragmaOnly : Bool) (output source : String) : m (Except Failure Report) := do
  let stripped := strip keepPragmaOnly source
  match ← writeText output stripped.text with
  | .error e => return .error (.write output e)
  | .ok () =>
    return .ok
      { outputPath := output
        sourceLines := stripped.sourceLines
        cleanedLines := stripped.cleanedLines }

/-- Strips one file into another. -/
def runPaths (keepPragmaOnly : Bool) (input output : String) : m (Except Failure Report) := do
  match ← readText input with
  | .error e => return .error (.read input e)
  | .ok source => writeStripped keepPragmaOnly output source

/-- Strips the settings' input into their output. -/
def run (settings : Settings) : m (Except Failure Report) :=
  runPaths settings.keepPragmaOnly settings.input settings.output

end Decomment
