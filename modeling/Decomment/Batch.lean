import Decomment.Run
import Decomment.Files.Path

/-!
Stripping every source of a directory.

The jobs of a directory pair each regular file directly in it whose extension is `sol`, and
whose stem does not already end in `_no_comments`, with the sibling `<stem>_no_comments.sol`.
Entry paths are the directory joined with the entry's name. The jobs are sorted by name, so the
order of the listing does not matter. `stripAll` runs the jobs one after another, in that order;
a failing job does not stop the others.
-/

namespace Decomment.Batch

open Decomment.Files

/-- The suffix of the stem of a stripped file. -/
def strippedSuffix : String := "_no_comments"

/-- One file to strip and the file to write. -/
structure Job where
  input : String
  output : String
deriving DecidableEq, Repr

/-- An entry of a directory listing: its name and whether it is a regular file. -/
structure Entry where
  name : String
  isFile : Bool
deriving DecidableEq, Repr

/-- The job for an entry of a directory, if the entry is a source to strip. -/
def jobOf? (dir : String) (entry : Entry) : Option Job :=
  let path := Path.join dir entry.name
  if !entry.isFile || Path.extension? path != some "sol" then none
  else match Path.stem? path with
    | some stem =>
      if stem.endsWith strippedSuffix then none
      else some ⟨path, Path.withFileName path (stem ++ strippedSuffix ++ ".sol")⟩
    | none => none

/-- The jobs of a directory listing, sorted by entry name. -/
def select (dir : String) (entries : List Entry) : List Job :=
  ((entries.mergeSort fun a b => decide (a.name ≤ b.name)).filterMap (jobOf? dir))

variable {m : Type → Type} [Monad m] [FileSystem m]

/-- Lists a directory with the kind of each entry. -/
def listEntries (dir : String) : m (Except Failure (List Entry)) := do
  match ← FileSystem.listDir dir with
  | .error e => return .error (.listDir dir e)
  | .ok names =>
    let entries ← names.mapM fun name => do
      return ({ name, isFile := ← FileSystem.isFile (Path.join dir name) } : Entry)
    return .ok entries

/-- The jobs of a directory. -/
def jobs (dir : String) : m (Except Failure (List Job)) := do
  match ← listEntries dir with
  | .error e => return .error e
  | .ok entries => return .ok (select dir entries)

/-- Runs every job, in order, and pairs each with its outcome. -/
def stripAll (keepPragmaOnly : Bool) (todo : List Job) : m (List (Job × Except Failure Report)) :=
  todo.mapM fun job => do
    return (job, ← runPaths keepPragmaOnly job.input job.output)

end Decomment.Batch
