import Decomment.Json.Quote

/-!
The report of a run.

After writing its output a run reports the path it wrote and the line counts before and after
cleaning, either as three lines of text or as a compact JSON object with the keys
`output_path`, `original_lines` and `cleaned_lines` in that order.
-/

namespace Decomment

/-- What a finished run reports. -/
structure Report where
  outputPath : String
  sourceLines : Nat
  cleanedLines : Nat
deriving DecidableEq, Repr

namespace Report

/-- The three lines of the report, with no final line feed. -/
def display (r : Report) : String :=
  "Cleaned file written to " ++ r.outputPath ++ "\nOriginal lines: " ++
    toString r.sourceLines ++ "\nCleaned lines: " ++ toString r.cleanedLines

/-- The report as a compact JSON object. -/
def json (r : Report) : String :=
  "\x7b\"output_path\":" ++ Json.quote r.outputPath ++ ",\"original_lines\":" ++
    toString r.sourceLines ++ ",\"cleaned_lines\":" ++ toString r.cleanedLines ++ "\x7d"

end Report

end Decomment
