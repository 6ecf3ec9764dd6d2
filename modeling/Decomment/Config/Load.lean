import Decomment.Config.Json
import Decomment.Config.Toml
import Decomment.Failure
import Decomment.Files.System
import Decomment.Files.Path

/-!
Loading settings from a config.

A config is given as one text. It names a file when a regular file is there, or when its last
path component has the extension `json` or `toml`; then the file is read, as JSON or TOML by its
extension. Any other text is the config itself: JSON, or, in a build that reads TOML, TOML when it
is not JSON. When neither reads, the JSON error is the one reported.

Which readers a build has is a `Features` value: reading TOML is optional, and so is stripping a
whole directory.
-/

namespace Decomment

/-- The optional parts of a build. -/
structure Features where
  /-- TOML configs are read. -/
  toml : Bool
  /-- Whole directories can be stripped. -/
  batch : Bool
deriving DecidableEq, Repr

namespace Config

open Decomment.Files

/-- The formats a config file may have. -/
inductive Format where
  | json
  | toml
deriving DecidableEq, Repr

/-- The format a path names by its extension, which is compared exactly. -/
def formatOf? (path : String) : Option Format :=
  match Path.extension? path with
  | some "json" => some .json
  | some "toml" => some .toml
  | _ => none

/-- Reads settings from config text of a known format. -/
def readFormat (features : Features) (path : String) : Format → String → Except Failure Settings
  | .json, text => (Settings.ofJson text).mapError .jsonConfig
  | .toml, text =>
    if features.toml then (Settings.ofToml text).mapError .tomlConfig
    else .error (.tomlNotEnabled path)

/-- Reads settings from inline config text. -/
def readInline (features : Features) (text : String) : Except Failure Settings :=
  match Settings.ofJson text with
  | .ok settings => .ok settings
  | .error e =>
    if features.toml then
      match Settings.ofToml text with
      | .ok settings => .ok settings
      | .error _ => .error (.jsonConfig e)
    else .error (.jsonConfig e)

variable {m : Type → Type} [Monad m] [FileSystem m]

/-- Loads settings from a config file. -/
def loadFile (features : Features) (path : String) : m (Except Failure Settings) := do
  match formatOf? path with
  | none => return .error (.unsupportedFormat path)
  | some format =>
    match ← readText path with
    | .error e => return .error (.configRead path e)
    | .ok text => return readFormat features path format text

/-- Loads settings from a config: a file, or the text itself. -/
def load (features : Features) (config : String) : m (Except Failure Settings) := do
  if (← FileSystem.isFile config) || (formatOf? config).isSome then loadFile features config
  else return readInline features config

end Config

end Decomment
