/-!
Lines of a text.

A text is cut into lines at every `\n`; the pieces between two line feeds, before the first and
after the last are its lines, so a text has one line more than it has line feeds (`""` is one
line, and a final line feed adds an empty last line). `foldNewlines` turns the two other
line-ending conventions, CR LF and a lone CR, into LF.
-/

namespace Decomment.Text

/-- The `\n`-separated lines of a text. There is always at least one. -/
def lines (text : List Char) : List (List Char) :=
  text.splitOn '\n'

/-- Joins lines with `\n` between them, with no final line feed. -/
def unlines (ls : List (List Char)) : List Char :=
  List.intercalate ['\n'] ls

/-- The number of lines of a text: one more than its line feeds. -/
def lineCount (text : List Char) : Nat :=
  text.count '\n' + 1

/-- Replaces each CR LF pair, and then each remaining CR, by LF. Scanning from the left, a CR
followed by LF is one line ending and any other CR is one line ending. -/
def foldNewlines : List Char → List Char
  | [] => []
  | '\r' :: '\n' :: rest => '\n' :: foldNewlines rest
  | '\r' :: rest => '\n' :: foldNewlines rest
  | c :: rest => c :: foldNewlines rest

@[simp] theorem foldNewlines_crlf (rest : List Char)
    : foldNewlines ('\r' :: '\n' :: rest) = '\n' :: foldNewlines rest := by
  simp [foldNewlines]

theorem foldNewlines_cr {rest : List Char} (noFeed : rest.head? ≠ some '\n')
    : foldNewlines ('\r' :: rest) = '\n' :: foldNewlines rest := by
  match rest, noFeed with
  | [], _ => rfl
  | c :: more, noFeed =>
      have notFeed : c ≠ '\n' := fun same => noFeed (by rw [same]; rfl)
      rw [foldNewlines.eq_3 _ fun _ same => notFeed (List.cons.inj same).1]

theorem foldNewlines_cons {c : Char} (notCr : c ≠ '\r') (rest : List Char)
    : foldNewlines (c :: rest) = c :: foldNewlines rest := by
  rw [foldNewlines.eq_4 _ _ (fun _ same _ => notCr same) notCr]

theorem lineCount_pos (text : List Char) : 0 < lineCount text :=
  Nat.succ_pos _

end Decomment.Text
