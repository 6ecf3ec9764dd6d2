import Decomment.Strip
import Decomment.Proofs.Clean

/-! The first pragma statement of a source, stated without the scan that finds it, and what
stripping keeps of it. `fromPragma` cuts a text exactly at its first statement; when that
statement holds no comment mark and no blank line, stripping keeps it whole at the front.
-/

namespace Decomment.Source

open Decomment.Text

-----------------------------------------------------------------------------------------
-- Pragma statements
-----------------------------------------------------------------------------------------

/-- A pragma statement: the keyword, at least one character other than `;`, then the first `;`
after them. -/
def IsPragmaStatement (statement : List Char) : Prop :=
  ∃ body, statement = pragmaKeyword ++ body ++ [';'] ∧ body ≠ [] ∧ ';' ∉ body

/-- A pragma statement starts at the front of a text. -/
def PragmaAtFront (text : List Char) : Prop :=
  ∃ statement rest, text = statement ++ rest ∧ IsPragmaStatement statement

/-- `statement` is the first pragma statement of `text`: it stands after `before`, and none
starts inside `before`. -/
def FirstPragma (text before statement after : List Char) : Prop :=
  text = before ++ statement ++ after ∧ IsPragmaStatement statement ∧
    ∀ n < before.length, ¬ PragmaAtFront (text.drop n)

/-- A pragma statement is not empty. -/
theorem IsPragmaStatement.ne_nil {statement : List Char} (isStatement : IsPragmaStatement statement)
    : statement ≠ [] := by
  obtain ⟨body, rfl, -, -⟩ := isStatement
  exact List.append_ne_nil_of_right_ne_nil _ (List.cons_ne_nil _ _)

/-- A member of a text has a first occurrence, by induction on the text. -/
theorem exists_first_occurrence {c : Char} {text : List Char} (member : c ∈ text)
    : ∃ before after, text = before ++ c :: after ∧ c ∉ before := by
  induction text with
  | nil => simp at member
  | cons d rest ih =>
      by_cases same : d = c
      · exact ⟨[], rest, by simp [same], by simp⟩
      · have inRest : c ∈ rest := (List.mem_cons.mp member).resolve_left (Ne.symm same)
        obtain ⟨before, after, rfl, notBefore⟩ := ih inRest
        refine ⟨d :: before, after, rfl, ?_⟩
        simp only [List.mem_cons, not_or]
        exact ⟨Ne.symm same, notBefore⟩

/-- The text after the keyword completes a statement exactly when it is a body of at least one
character without `;`, then a `;`. -/
theorem completesPragma_iff {text : List Char}
    : completesPragma text = true ↔
      ∃ body after, text = body ++ ';' :: after ∧ body ≠ [] ∧ ';' ∉ body := by
  constructor
  · intro completes
    cases text with
    | nil => simp [completesPragma] at completes
    | cons c rest =>
        simp only [completesPragma, Bool.and_eq_true, bne_iff_ne, ne_eq,
          List.contains_iff_mem] at completes
        obtain ⟨notSemicolon, member⟩ := completes
        obtain ⟨body, after, rfl, notInBody⟩ := exists_first_occurrence member
        refine ⟨c :: body, after, rfl, List.cons_ne_nil _ _, ?_⟩
        simp only [List.mem_cons, not_or]
        exact ⟨Ne.symm notSemicolon, notInBody⟩
  · rintro ⟨body, after, rfl, nonempty, notInBody⟩
    obtain ⟨c, body, rfl⟩ := List.exists_cons_of_ne_nil nonempty
    simp only [List.mem_cons, not_or] at notInBody
    simp [completesPragma, Ne.symm notInBody.1]

/-- The scan's test for a statement at the front: the keyword, then a text that completes it. -/
theorem startsPragma_eq_true_iff {text : List Char}
    : startsPragma text = true ↔
      ∃ after, text = pragmaKeyword ++ after ∧ completesPragma after = true := by
  simp only [startsPragma, Bool.and_eq_true, List.isPrefixOf_iff_prefix]
  constructor
  · rintro ⟨⟨after, rfl⟩, completes⟩
    rw [List.drop_left] at completes
    exact ⟨after, rfl, completes⟩
  · rintro ⟨after, rfl, completes⟩
    rw [List.drop_left]
    exact ⟨List.prefix_append _ _, completes⟩

/-- The scan's test for a statement at the front is the statement's definition. -/
theorem startsPragma_iff {text : List Char} : startsPragma text = true ↔ PragmaAtFront text := by
  rw [startsPragma_eq_true_iff]
  constructor
  · rintro ⟨after, rfl, completes⟩
    obtain ⟨body, rest, rfl, nonempty, notInBody⟩ := completesPragma_iff.mp completes
    exact ⟨pragmaKeyword ++ body ++ [';'], rest, by simp, body, rfl, nonempty, notInBody⟩
  · rintro ⟨_, rest, rfl, body, rfl, nonempty, notInBody⟩
    refine ⟨body ++ ';' :: rest, by simp, ?_⟩
    exact completesPragma_iff.mpr ⟨body, rest, rfl, nonempty, notInBody⟩

/-- The scan finds the first statement, by induction on the text before it: at each earlier
position the front test fails, and at the statement it succeeds.
-/
theorem pragmaSuffix?_of_firstPragma {text before statement after : List Char}
    (first : FirstPragma text before statement after)
    : pragmaSuffix? text = some (statement ++ after) := by
  obtain ⟨rfl, isStatement, noneEarlier⟩ := first
  induction before with
  | nil =>
      have atFront : startsPragma (statement ++ after) = true :=
        startsPragma_iff.mpr ⟨statement, after, rfl, isStatement⟩
      obtain ⟨c, rest, split⟩ := List.exists_cons_of_ne_nil
        (List.append_ne_nil_of_left_ne_nil isStatement.ne_nil after)
      rw [List.nil_append, split]
      rw [split] at atFront
      rw [pragmaSuffix?.eq_2, if_pos atFront]
  | cons c before ih =>
      have notHere : startsPragma (c :: (before ++ statement ++ after)) = false := by
        rw [Bool.eq_false_iff]
        intro starts
        exact noneEarlier 0 (by simp) (by simpa using startsPragma_iff.mp starts)
      have later : ∀ n < before.length, ¬ PragmaAtFront ((before ++ statement ++ after).drop n) :=
        fun n short => by simpa using noneEarlier (n + 1) (by simpa using short)
      simp only [List.cons_append, pragmaSuffix?, notHere]
      exact ih later

/-- `fromPragma` cuts a text exactly at its first pragma statement. -/
theorem fromPragma_of_firstPragma {text before statement after : List Char}
    (first : FirstPragma text before statement after)
    : fromPragma text = statement ++ after := by
  simp [fromPragma, pragmaSuffix?_of_firstPragma first]

/-- A pragma statement ends in `;`. -/
theorem IsPragmaStatement.getLast? {statement : List Char}
    (isStatement : IsPragmaStatement statement)
    : statement.getLast? = some ';' := by
  obtain ⟨body, rfl, -, -⟩ := isStatement
  simp

-----------------------------------------------------------------------------------------
-- The first statement by index
-----------------------------------------------------------------------------------------

/-- A pragma statement starts at index `i` of a text: the keyword stands there, the character
right after it is not `;`, and a `;` comes somewhere after that character. -/
def PragmaAt (text : List Char) (i : Nat) : Prop :=
  ∃ c rest, text.drop i = pragmaKeyword ++ c :: rest ∧ c ≠ ';' ∧ ';' ∈ rest

/-- The scan's test for a statement at the front asks for one at index 0. -/
theorem startsPragma_iff_pragmaAt {text : List Char}
    : startsPragma text = true ↔ PragmaAt text 0 := by
  rw [startsPragma_eq_true_iff, PragmaAt, List.drop_zero]
  constructor
  · rintro ⟨after, rfl, completes⟩
    cases after with
    | nil => simp [completesPragma] at completes
    | cons c rest =>
        simp only [completesPragma, Bool.and_eq_true, bne_iff_ne, ne_eq,
          List.contains_iff_mem] at completes
        exact ⟨c, rest, rfl, completes⟩
  · rintro ⟨c, rest, rfl, notSemicolon, member⟩
    exact ⟨c :: rest, rfl, by simp [completesPragma, notSemicolon, member]⟩

/-- Past the first character, indices shift by one. -/
theorem pragmaAt_cons_succ {c : Char} {rest : List Char} {i : Nat}
    : PragmaAt (c :: rest) (i + 1) ↔ PragmaAt rest i :=
  Iff.rfl

/-- No statement starts in the empty text. -/
theorem not_pragmaAt_nil (i : Nat) : ¬ PragmaAt [] i := by
  rintro ⟨c, rest, split, -⟩
  rw [List.drop_nil] at split
  exact List.append_ne_nil_of_right_ne_nil _ (List.cons_ne_nil c rest) split.symm

/-- A text with a statement at its front is its own cut. -/
theorem fromPragma_of_pragmaAt_zero {text : List Char} (atFront : PragmaAt text 0)
    : fromPragma text = text := by
  cases text with
  | nil => exact absurd atFront (not_pragmaAt_nil 0)
  | cons c rest => simp [fromPragma, pragmaSuffix?, startsPragma_iff_pragmaAt.mpr atFront]

/-- A found cut starts at the first index with a statement, by induction following the scan: the
front test failed at each earlier index. -/
theorem pragmaSuffix?_eq_some {text cut : List Char} (found : pragmaSuffix? text = some cut)
    : ∃ i, PragmaAt text i ∧ (∀ k < i, ¬ PragmaAt text k) ∧ cut = text.drop i := by
  fun_induction pragmaSuffix? text with
  | case1 => cases found
  | case2 c rest starts =>
      cases found
      exact ⟨0, startsPragma_iff_pragmaAt.mp starts, fun k early => absurd early (by omega), rfl⟩
  | case3 c rest notStart ih =>
      obtain ⟨i, atI, first, rfl⟩ := ih found
      refine ⟨i + 1, pragmaAt_cons_succ.mpr atI, ?_, rfl⟩
      intro k early
      cases k with
      | zero => exact fun atFront => notStart (startsPragma_iff_pragmaAt.mpr atFront)
      | succ k => exact fun atK => first k (by omega) (pragmaAt_cons_succ.mp atK)

/-- A scan that finds no cut passed no index with a statement, by induction following the
scan. -/
theorem pragmaSuffix?_eq_none {text : List Char} (missing : pragmaSuffix? text = none)
    : ∀ i, ¬ PragmaAt text i := by
  fun_induction pragmaSuffix? text with
  | case1 => exact not_pragmaAt_nil
  | case2 => cases missing
  | case3 c rest notStart ih =>
      intro i
      cases i with
      | zero => exact fun atFront => notStart (startsPragma_iff_pragmaAt.mpr atFront)
      | succ i => exact fun atI => ih missing i (pragmaAt_cons_succ.mp atI)

/-- The pragma cut keeps a text from the least index at which a pragma statement starts, and
keeps a text with no statement whole; so cutting twice cuts no more. -/
theorem fromPragma_from_first_statement (text : List Char)
    : ((∃ i, PragmaAt text i ∧ (∀ k < i, ¬ PragmaAt text k) ∧ fromPragma text = text.drop i) ∨
        ((∀ i, ¬ PragmaAt text i) ∧ fromPragma text = text)) ∧
      fromPragma (fromPragma text) = fromPragma text := by
  cases found : pragmaSuffix? text with
  | none =>
      have whole : fromPragma text = text := by simp [fromPragma, found]
      exact ⟨.inr ⟨pragmaSuffix?_eq_none found, whole⟩, by rw [whole, whole]⟩
  | some cut =>
      obtain ⟨i, atI, first, rfl⟩ := pragmaSuffix?_eq_some found
      have cutAt : fromPragma text = text.drop i := by simp [fromPragma, found]
      -- the cut starts with its statement, so it is its own cut
      have again : fromPragma (text.drop i) = text.drop i :=
        fromPragma_of_pragmaAt_zero (by simpa [PragmaAt] using atI)
      exact ⟨.inl ⟨i, atI, first, cutAt⟩, by rw [cutAt, again]⟩

-- Only the first statement counts, `pragma solidity;` is none, and a statement may span lines.
example : fromPragma "x pragma solidity; pragma\npragma solidity\n1;".toList =
    "pragma solidity\n1;".toList := by
  decide

end Decomment.Source

namespace Decomment

open Decomment.Text Decomment.Source

/-- With only the part from the pragma kept, the first pragma statement of the source, after line
endings are folded, survives stripping whenever it holds no `//`, no `/*` and no blank line: the
stripped text starts with it, and the rest of the stripped text is taken, in order, from what
follows it.
-/
theorem strip_keeps_first_pragma (source : String) (before statement after : List Char)
    (first : FirstPragma (foldNewlines source.toList) before statement after)
    (noLine : ¬ ['/', '/'] <:+: statement) (noOpener : ¬ ['/', '*'] <:+: statement)
    (filled : ∀ line ∈ lines statement, isBlankLine line = false)
    : statement <+: (strip true source).text.toList ∧
      (strip true source).text.toList.Sublist (statement ++ after) := by
  have cut : preparedSource true source.toList = statement ++ after :=
    fromPragma_of_firstPragma first
  have stripped : (strip true source).text.toList = clean (statement ++ after) := by
    simp [strip, cut]
  have lastNotSlash : statement.getLast? ≠ some '/' := by
    rw [first.2.1.getLast?]
    decide
  rw [stripped]
  exact ⟨prefix_clean after noLine noOpener lastNotSlash filled, clean_sublist _⟩

/-- A CR LF source with a commented header line and a comment after the statement. -/
theorem strip_keeps_first_pragma_after_header :
    FirstPragma (foldNewlines "// x\r\npragma solidity ^0.8.0; // y\r\n".toList) "// x\n".toList
      "pragma solidity ^0.8.0;".toList " // y\n".toList ∧
    ¬ ['/', '/'] <:+: "pragma solidity ^0.8.0;".toList ∧
    ¬ ['/', '*'] <:+: "pragma solidity ^0.8.0;".toList ∧
    (∀ line ∈ lines "pragma solidity ^0.8.0;".toList, isBlankLine line = false) ∧
    "pragma solidity ^0.8.0;".toList <+:
      (strip true "// x\r\npragma solidity ^0.8.0; // y\r\n").text.toList ∧
    (strip true "// x\r\npragma solidity ^0.8.0; // y\r\n").text.toList.Sublist
      ("pragma solidity ^0.8.0;".toList ++ " // y\n".toList) := by
  have first : FirstPragma (foldNewlines "// x\r\npragma solidity ^0.8.0; // y\r\n".toList)
      "// x\n".toList "pragma solidity ^0.8.0;".toList " // y\n".toList := by
    refine ⟨by decide, ⟨" ^0.8.0".toList, by decide, by decide, by decide⟩, ?_⟩
    intro n short
    rw [← startsPragma_iff]
    revert n
    decide
  have noLine : ¬ ['/', '/'] <:+: "pragma solidity ^0.8.0;".toList := by decide
  have noOpener : ¬ ['/', '*'] <:+: "pragma solidity ^0.8.0;".toList := by decide
  have filled : ∀ line ∈ lines "pragma solidity ^0.8.0;".toList, isBlankLine line = false := by
    decide
  exact ⟨first, noLine, noOpener, filled,
    strip_keeps_first_pragma _ _ _ _ first noLine noOpener filled⟩

end Decomment
