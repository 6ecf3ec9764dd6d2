import Decomment.Json.Quote

/-!
Settings of a run.

A run reads one path, writes another, and either keeps the whole source or only the part from
the version pragma on. Missing settings take the defaults below. `Settings.render` is the
compact JSON object of the settings, which is also how settings are shown.
-/

namespace Decomment

/-- The source read when no input is given. -/
def defaultInput : String := "contracts/Web3TwinNFT_flattened_clean.sol"

/-- The file written when no output is given. -/
def defaultOutput : String := "contracts/Web3TwinNFT_flattened_no_comments.sol"

/-- Where to read, where to write, and whether the header above the first pragma goes. -/
structure Settings where
  input : String := defaultInput
  output : String := defaultOutput
  keepPragmaOnly : Bool := true
deriving DecidableEq, Repr

instance : Inhabited Settings := ⟨{}⟩

namespace Settings

/-- Starts from the given settings or the defaults; a header choice, when made, overrides the
pragma switch: keeping the header means not cutting at the pragma. -/
def build (given : Option Settings) (keepHeader : Option Bool) : Settings :=
  let base := given.getD {}
  match keepHeader with
  | some keep => { base with keepPragmaOnly := !keep }
  | none => base

/-- The text of a switch in JSON. -/
def renderBool (b : Bool) : String :=
  if b then "true" else "false"

/-- The compact JSON object of the settings, with the keys `input`, `output` and
`keep_pragma_only` in that order. -/
def render (s : Settings) : String :=
  "\x7b\"input\":" ++ Json.quote s.input ++ ",\"output\":" ++ Json.quote s.output ++
    ",\"keep_pragma_only\":" ++ renderBool s.keepPragmaOnly ++ "\x7d"

end Settings

end Decomment
