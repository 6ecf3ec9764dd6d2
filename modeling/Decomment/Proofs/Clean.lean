import Decomment.Proofs.BlankLines
import Decomment.Strip
import Mathlib.Data.String.Basic

/-! Cleaning leaves no comment, and cleaning a cleaned text changes nothing. The line pass
leaves no `//`; on such a text the block pass leaves no block comment and makes no `//`; and
dropping blank lines makes neither. A text with no comment and no blank line is kept whole by
all three passes.

Every pass only deletes, so a cleaned text has no more bytes and no more lines than its source.
-/

namespace Decomment.Source

open Decomment.Text

/-- A cleaned text holds no `//`. -/
theorem clean_no_doubleSlash (text : List Char) : ¬ ['/', '/'] <:+: clean text := by
  intro mark
  have afterBlocks := pair_infix_of_dropBlankLines (by decide) (by decide) mark
  exact (stripBlockComments_clean (lineScan_no_doubleSlash false text)).1 afterBlocks

/-- A cleaned text holds no block comment. -/
theorem clean_no_blockComment (text : List Char) : ¬ HasBlockComment (clean text) := by
  intro block
  have afterBlocks := hasBlockComment_of_dropBlankLines block
  exact (stripBlockComments_clean (lineScan_no_doubleSlash false text)).2 afterBlocks

/-- No comment survives cleaning: the cleaned text holds no `//`, so the line-comment pattern
matches nowhere in it, and no `/*` with a `*/` starting after it, so the block-comment pattern
matches nowhere either.
-/
theorem clean_leaves_no_comment (text : List Char)
    : ¬ ['/', '/'] <:+: clean text ∧ ¬ HasBlockComment (clean text) :=
  ⟨clean_no_doubleSlash text, clean_no_blockComment text⟩

/-- Cleaning is idempotent: the passes find nothing to delete in a cleaned text, and its lines
are already the filled ones.
-/
theorem clean_idempotent (text : List Char) : clean (clean text) = clean text := by
  have noLine := clean_no_doubleSlash text
  have noBlock := clean_no_blockComment text
  calc clean (clean text)
      = dropBlankLines (stripBlockComments (clean text)) := by
        rw [clean, stripLineComments, lineScan_of_no_doubleSlash noLine]
    _ = dropBlankLines (clean text) := by rw [stripBlockComments_of_not_hasBlockComment noBlock]
    _ = clean text := dropBlankLines_dropBlankLines _

/-- Cleaning only deletes. -/
theorem clean_sublist (text : List Char) : (clean text).Sublist text :=
  (dropBlankLines_sublist _).trans
    ((stripBlockComments_sublist _).trans (lineScan_sublist false text))

/-- A front with no `//`, no `/*`, no final `/` and no blank line stays at the front of what
cleaning makes of it and any text after it: each pass keeps it whole and works on the rest.
-/
theorem prefix_clean {front : List Char} (rest : List Char)
    (noLine : ¬ ['/', '/'] <:+: front) (noOpener : ¬ ['/', '*'] <:+: front)
    (lastNotSlash : front.getLast? ≠ some '/')
    (filled : ∀ line ∈ lines front, isBlankLine line = false)
    : front <+: clean (front ++ rest) := by
  have lineKept : stripLineComments (front ++ rest) = front ++ stripLineComments rest :=
    lineScan_append rest noLine fun last => absurd last lastNotSlash
  have blockKept : stripBlockComments (front ++ stripLineComments rest) =
      front ++ stripBlockComments (stripLineComments rest) :=
    stripBlockComments_append _ noOpener fun last => absurd last lastNotSlash
  rw [clean, lineKept, blockKept]
  exact prefix_dropBlankLines _ filled

end Decomment.Source

namespace Decomment

open Decomment.Text Decomment.Source

/-- A text that only lost characters has no more lines: it has no more line feeds. -/
theorem lineCount_le_of_sublist {kept text : List Char} (sub : kept.Sublist text)
    : lineCount kept ≤ lineCount text :=
  Nat.succ_le_succ (sub.count_le '\n')

/-- A text that only lost characters has no more UTF-8 bytes. -/
theorem utf8ByteSize_le_of_sublist {kept : List Char} {text : String}
    (sub : kept.Sublist text.toList)
    : (String.ofList kept).utf8ByteSize ≤ text.utf8ByteSize := by
  have whole : text.utf8ByteSize = String.utf8Len text.toList := by
    rw [← String.utf8ByteSize_ofList, String.ofList_toList]
  rw [String.utf8ByteSize_ofList, whole]
  exact String.utf8Len_le_of_sublist sub

/-- Stripping never counts more lines after cleaning than before: the cleaned text is a
subsequence of the text it was cleaned from. -/
theorem cleanedLines_le_sourceLines (keep : Bool) (source : String)
    : (strip keep source).cleanedLines ≤ (strip keep source).sourceLines :=
  lineCount_le_of_sublist (clean_sublist _)

/-- The comment passes only delete characters: the line pass, the block pass after it and the
whole cleaning each leave a subsequence of the text. So the bytes the two comment passes remove
are never more than the text has, and a stripped source keeps at least one line and never gains
one.
-/
theorem comment_passes_only_delete (text : String) (keep : Bool) (source : String)
    : (stripLineComments text.toList).Sublist text.toList ∧
      (stripBlockComments (stripLineComments text.toList)).Sublist text.toList ∧
      (clean text.toList).Sublist text.toList ∧
      (String.ofList (stripBlockComments (stripLineComments text.toList))).utf8ByteSize ≤
        text.utf8ByteSize ∧
      1 ≤ (strip keep source).cleanedLines ∧
      (strip keep source).cleanedLines ≤ (strip keep source).sourceLines := by
  have lineKept := lineScan_sublist false text.toList
  have blockKept := (stripBlockComments_sublist _).trans lineKept
  exact ⟨lineKept, blockKept, clean_sublist _, utf8ByteSize_le_of_sublist blockKept,
    lineCount_pos _, cleanedLines_le_sourceLines keep source⟩

end Decomment
