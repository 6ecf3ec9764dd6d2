import Decomment.Files.Error
import Decomment.Json.Error
import Decomment.Toml.Error

/-!
Failures of the stripper.

A run fails reading its source, writing its output, listing a directory or loading its config.
Each failure names the path it concerns and, where there is one, the error beneath it: the file
error, or the JSON or TOML reader's error. `Failure.message` is the one-line text; `cause?` is the
text of the error beneath, which the command line prints after its message.
-/

namespace Decomment

open Decomment.Files

/-- Why a run failed. -/
inductive Failure where
  | read (path : String) (cause : IoError)
  | write (path : String) (cause : IoError)
  | listDir (path : String) (cause : IoError)
  | configRead (path : String) (cause : IoError)
  | jsonConfig (cause : Json.ParseError)
  | tomlConfig (cause : Toml.Error)
  | unsupportedFormat (path : String)
  | tomlNotEnabled (path : String)
deriving DecidableEq, Repr

namespace Failure

/-- The text of a failure. -/
def message : Failure → String
  | .read path cause => "could not read source " ++ path ++ ": " ++ cause.message
  | .write path cause => "could not write cleaned source " ++ path ++ ": " ++ cause.message
  | .listDir path cause => "could not list contracts in " ++ path ++ ": " ++ cause.message
  | .configRead path cause => "could not read config " ++ path ++ ": " ++ cause.message
  | .jsonConfig cause => "invalid JSON config: " ++ cause.message
  | .tomlConfig cause => "invalid TOML config: " ++ cause.message
  | .unsupportedFormat path =>
    "config " ++ path ++ " has an unsupported format, use .json or .toml"
  | .tomlNotEnabled path =>
    "config " ++ path ++ " is TOML; rebuild with the 'toml_config' feature to load it"

/-- The text of the error beneath a failure, if there is one. -/
def cause? : Failure → Option String
  | .read _ cause => some cause.message
  | .write _ cause => some cause.message
  | .listDir _ cause => some cause.message
  | .configRead _ cause => some cause.message
  | .jsonConfig cause => some cause.message
  | .tomlConfig cause => some cause.message
  | .unsupportedFormat _ => none
  | .tomlNotEnabled _ => none

end Failure

end Decomment
