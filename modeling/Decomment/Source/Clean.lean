import Decomment.Text.Blank
import Decomment.Text.Lines
import Decomment.Source.Comments

/-!
Cleaning a source.

`clean` deletes line comments, then block comments, then drops every blank line; the lines that
remain are joined by `\n` with no final line feed. Line comments go first, so a `/*` that stands
after a `//` on its line is gone before the block pass runs.
-/

namespace Decomment.Source

open Decomment.Text

/-- Drops the blank lines of a text and joins the others with `\n`. -/
def dropBlankLines (text : List Char) : List Char :=
  unlines ((lines text).filter fun line => !isBlankLine line)

/-- Deletes both kinds of comment and drops the blank lines that are left. -/
def clean (text : List Char) : List Char :=
  dropBlankLines (stripBlockComments (stripLineComments text))

end Decomment.Source
