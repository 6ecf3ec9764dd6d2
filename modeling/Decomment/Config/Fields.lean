import Decomment.Settings

/-!
The settings fields a config names.

A config may name `input` and `output`, which are paths, and `keep_pragma_only`, a switch. Each
reader collects the fields it meets (`Fields`); those a config leaves out keep their defaults.
-/

namespace Decomment.Config

/-- The fields of a config read so far. -/
structure Fields where
  input : Option String := none
  output : Option String := none
  keepPragmaOnly : Option Bool := none
deriving DecidableEq, Repr

/-- The settings the fields give, with defaults for those missing. -/
def Fields.settings (f : Fields) : Settings :=
  { input := f.input.getD defaultInput
    output := f.output.getD defaultOutput
    keepPragmaOnly := f.keepPragmaOnly.getD true }

/-- The field of a name was met already; `false` for a name that is no field. -/
def Fields.isSet (f : Fields) : String → Bool
  | "input" => f.input.isSome
  | "output" => f.output.isSome
  | "keep_pragma_only" => f.keepPragmaOnly.isSome
  | _ => false

end Decomment.Config
