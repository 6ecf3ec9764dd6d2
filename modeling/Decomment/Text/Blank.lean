/-!
White space and blank lines.

A line is blank when every character in it is Unicode white space (the `White_Space` property)
or one of the four information separators U+001C to U+001F. The empty line is blank. The table
of white space is written out as code-point ranges; `isWhiteSpace_of_isWhitespace` checks that
it contains the four ASCII blanks that core's `Char.isWhitespace` knows.
-/

namespace Decomment.Text

/-- The code-point ranges, inclusive, of the Unicode `White_Space` property. -/
def whiteSpaceRanges : List (Nat × Nat) :=
  [(0x09, 0x0D), (0x20, 0x20), (0x85, 0x85), (0xA0, 0xA0), (0x1680, 0x1680),
    (0x2000, 0x200A), (0x2028, 0x2029), (0x202F, 0x202F), (0x205F, 0x205F),
    (0x3000, 0x3000)]

/-- A character has the Unicode `White_Space` property. -/
def isWhiteSpace (c : Char) : Bool :=
  whiteSpaceRanges.any fun (lo, hi) => lo ≤ c.toNat && c.toNat ≤ hi

/-- A character is one of the information separators U+001C to U+001F. -/
def isSeparator (c : Char) : Bool :=
  0x1C ≤ c.toNat && c.toNat ≤ 0x1F

/-- A character that may fill a blank line. -/
def isBlankChar (c : Char) : Bool :=
  isWhiteSpace c || isSeparator c

/-- A line is blank when it holds blank characters only; the empty line is blank. -/
def isBlankLine (line : List Char) : Bool :=
  line.all isBlankChar

theorem isWhiteSpace_of_isWhitespace {c : Char} (h : c.isWhitespace = true) :
    isWhiteSpace c = true := by
  simp only [Char.isWhitespace, Bool.or_eq_true, decide_eq_true_eq] at h
  rcases h with ((h | h) | h) | h <;> subst h <;> decide

theorem isBlankLine_nil : isBlankLine [] = true := rfl

theorem isBlankLine_cons (c : Char) (line : List Char) :
    isBlankLine (c :: line) = (isBlankChar c && isBlankLine line) := rfl

end Decomment.Text
