import Decomment.Cli.Parse
import Decomment.Run
import Decomment.Batch

/-!
Running the command line.

A run ends with an exit code and the texts written to standard output and standard error
(`Outcome`). An error in the command line exits with 2; `--help` and `--version` print and exit
with 0. Otherwise the settings are the defaults, then the config of `-c`, then the paths of `-i`
and `-o`, and `--keep-header` keeps the header. Then:

* with `--batch DIR`, every source of the directory is stripped, each report printed on a line of
  its own; if any fails, the run exits with 1 saying how many;
* with `--stdout`, the stripped text is printed as it is and no file is written;
* otherwise the input is stripped into the output and the report printed on a line.

A failure exits with 1, printing `Error: ` and its message, and the error beneath it after
`Caused by:` when there is one.

`stderr` holds what the program itself prints, not its log. The logger writes to standard error
too: at the default level (warnings and worse) one error line for each batch source that fails,
and with `-v` or `-vv` information and debug lines besides. The form of those lines is the
logger's and depends on the environment the program runs in, so they are left out here, and
`--verbose` is read but changes nothing.
-/

namespace Decomment.Cli

open Decomment.Files

/-- How a run of the program ends. -/
structure Outcome where
  exitCode : Nat
  stdout : String := ""
  stderr : String := ""
deriving DecidableEq, Repr

/-- What a failure prints. -/
def failureText (f : Failure) : String :=
  "Error: " ++ f.message ++ "\n" ++
    match f.cause? with
    | some cause => "\nCaused by:\n    " ++ cause ++ "\n"
    | none => ""

/-- The outcome of a failure. -/
def failed (f : Failure) : Outcome :=
  { exitCode := 1, stderr := failureText f }

/-- A report as printed: JSON, or the text for people. -/
def reportText (json : Bool) (r : Report) : String :=
  if json then r.json else r.display

/-- The settings after the command line's own options. -/
def Arguments.override (a : Arguments) (s : Settings) : Settings :=
  { input := a.input.getD s.input
    output := a.output.getD s.output
    keepPragmaOnly := if a.keepHeader then false else s.keepPragmaOnly }

variable {m : Type → Type} [Monad m] [FileSystem m]

/-- The settings a command line asks for. -/
def Arguments.settings (features : Features) (a : Arguments) : m (Except Failure Settings) := do
  match a.config with
  | some config => return (← Config.load features config).map a.override
  | none => return .ok (a.override {})

/-- Strips every source of a directory, printing a report line for each one that succeeds. A
source that fails is only counted here: the error line the logger writes for it is not part of
`stderr` (see the module note). -/
def stripDirectory (settings : Settings) (json : Bool) (dir : String) : m Outcome := do
  match ← Batch.jobs dir with
  | .error f => return failed f
  | .ok todo =>
    let outcomes ← Batch.stripAll settings.keepPragmaOnly todo
    let printed := String.join (outcomes.filterMap fun
      | (_, .ok r) => some (reportText json r ++ "\n")
      | (_, .error _) => none)
    let failures := (outcomes.filter fun
      | (_, .ok _) => false
      | (_, .error _) => true).length
    if failures == 0 then return { exitCode := 0, stdout := printed }
    else return { exitCode := 1, stdout := printed,
                  stderr := "Error: " ++ toString failures ++ " of " ++ toString todo.length ++
                    " files failed\n" }

/-- Prints the stripped input without writing a file. -/
def printStripped (settings : Settings) : m Outcome := do
  match ← readText settings.input with
  | .error e => return failed (.read settings.input e)
  | .ok source => return { exitCode := 0, stdout := (strip settings.keepPragmaOnly source).text }

/-- Runs the program of a build on a command line. -/
def execute (features : Features) (args : List String) : m Outcome := do
  match readArgs features args with
  | .error (.error e) => return { exitCode := 2, stderr := e.message }
  | .error .help => return { exitCode := 0, stdout := helpText features }
  | .error .version => return { exitCode := 0, stdout := versionText }
  | .ok a =>
    match ← a.settings features with
    | .error f => return failed f
    | .ok settings =>
      match a.batch with
      | some dir => stripDirectory settings a.json dir
      | none =>
        if a.stdout then printStripped settings
        else
          match ← run settings with
          | .error f => return failed f
          | .ok r => return { exitCode := 0, stdout := reportText a.json r ++ "\n" }

end Decomment.Cli
