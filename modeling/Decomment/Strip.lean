import Decomment.Text.Lines
import Decomment.Source.Pragma
import Decomment.Source.Clean

/-!
Stripping a source.

`strip` first folds CR LF and lone CR into LF, then, when only the part from the pragma is kept,
cuts the header above the first pragma statement, then cleans. It counts the lines of the text
it cleaned (after the cut) and of the result.
-/

namespace Decomment

open Decomment.Text Decomment.Source

/-- A cleaned text with the line counts before and after cleaning. -/
structure Stripped where
  text : String
  sourceLines : Nat
  cleanedLines : Nat
deriving DecidableEq, Repr

/-- The text that gets cleaned: line endings folded, and cut at the pragma when asked. -/
def preparedSource (keepPragmaOnly : Bool) (source : List Char) : List Char :=
  let folded := foldNewlines source
  if keepPragmaOnly then fromPragma folded else folded

/-- Folds line endings, cuts at the pragma when asked, cleans, and counts lines. -/
def strip (keepPragmaOnly : Bool) (source : String) : Stripped :=
  let prepared := preparedSource keepPragmaOnly source.toList
  let cleaned := clean prepared
  { text := String.ofList cleaned
    sourceLines := lineCount prepared
    cleanedLines := lineCount cleaned }

end Decomment
