import Decomment.Source.Clean
import Decomment.Proofs.Comments
import Decomment.Proofs.Lists

/-! Lines, and dropping the blank ones. A line never holds a line feed, so a mark without one
lies inside a single line; dropping whole lines therefore makes no new `//` and no new block
comment. The lines that are kept are the lines of the result, so dropping twice drops nothing
more, and a front whose lines are all filled stays at the front.
-/

namespace Decomment.Source

open Decomment.Text

-----------------------------------------------------------------------------------------
-- Lines and joins
-----------------------------------------------------------------------------------------

/-- Joining the lines of a text gives the text back. -/
theorem unlines_lines (text : List Char) : unlines (lines text) = text :=
  List.intercalate_splitOn '\n'

/-- A text has at least one line. -/
theorem lines_ne_nil (text : List Char) : lines text ≠ [] :=
  List.splitOn_ne_nil '\n' text

/-- Cutting joined lines gives them back, when none of them holds a line feed. -/
theorem lines_unlines {ls : List (List Char)} (nonempty : ls ≠ [])
    (noNewline : ∀ line ∈ ls, '\n' ∉ line)
    : lines (unlines ls) = ls :=
  List.splitOn_intercalate '\n' noNewline nonempty

/-- Two or more lines are joined by a line feed after the first. -/
theorem unlines_cons_cons (line next : List Char) (others : List (List Char))
    : unlines (line :: next :: others) = line ++ '\n' :: unlines (next :: others) := by
  simp [unlines]

/-- One line is joined to itself. -/
theorem unlines_singleton (line : List Char) : unlines [line] = line :=
  List.intercalate_singleton

/-- The first of the joined lines stands at the front of the join. -/
theorem prefix_unlines_cons (line : List Char) (others : List (List Char))
    : line <+: unlines (line :: others) := by
  cases others with
  | nil => simp [unlines]
  | cons next others =>
      rw [unlines_cons_cons]
      exact List.prefix_append _ _

/-- No line holds a line feed. -/
theorem newline_not_mem_of_mem_lines {text line : List Char} (member : line ∈ lines text)
    : '\n' ∉ line :=
  not_mem_of_mem_splitOn member

/-- A line feed after a first line cuts the text there. -/
theorem lines_append_newline {line : List Char} (rest : List Char) (noNewline : '\n' ∉ line)
    : lines (line ++ '\n' :: rest) = line :: lines rest :=
  List.splitOn_append_cons_self_of_not_mem noNewline rest

/-- A piece without a line feed joins the first line of what follows it, by induction on the
piece.
-/
theorem lines_append_of_not_mem {piece first : List Char} {others : List (List Char)}
    (rest : List Char) (split : lines rest = first :: others) (noNewline : '\n' ∉ piece)
    : lines (piece ++ rest) = (piece ++ first) :: others := by
  induction piece with
  | nil => exact split
  | cons c piece ih =>
      have notNewline : c ≠ '\n' := fun same => noNewline (by simp [same])
      have inner := ih fun member => noNewline (List.mem_cons_of_mem c member)
      rw [lines] at inner ⊢
      rw [List.cons_append, List.splitOn_cons_eq_if_modifyHead, if_neg (by simpa using notNewline),
        inner, List.modifyHead_cons, List.cons_append]

-----------------------------------------------------------------------------------------
-- Marks in joined lines
-----------------------------------------------------------------------------------------

/-- A mark without a line feed occurs in joined lines only inside one of them, by induction on
the lines.
-/
theorem pair_infix_unlines {a b : Char} (aLine : a ≠ '\n') (bLine : b ≠ '\n')
    {ls : List (List Char)}
    : [a, b] <:+: unlines ls ↔ ∃ line ∈ ls, [a, b] <:+: line := by
  induction ls with
  | nil => simp [unlines]
  | cons line others ih =>
      cases others with
      | nil => simp [unlines]
      | cons next others =>
          rw [unlines_cons_cons, pair_infix_append, pair_infix_cons, ih]
          constructor
          · rintro (inLine | (⟨newline, -⟩ | ⟨l, member, inL⟩) | ⟨-, newline⟩)
            · exact ⟨line, List.mem_cons_self, inLine⟩
            · exact absurd newline.symm aLine
            · exact ⟨l, List.mem_cons_of_mem _ member, inL⟩
            · exact absurd (Option.some.inj newline).symm bLine
          · rintro ⟨l, member, inL⟩
            rcases List.mem_cons.mp member with rfl | member
            · exact .inl inL
            · exact .inr (.inl (.inr ⟨l, member, inL⟩))

/-- A block comment across a line feed lies on one side of it, or opens before it and closes
after it.
-/
theorem hasBlockComment_append_newline {front back : List Char}
    : HasBlockComment (front ++ '\n' :: back) ↔
      HasBlockComment front ∨ HasBlockComment back ∨
        (['/', '*'] <:+: front ∧ ['*', '/'] <:+: back) := by
  constructor
  · rintro ⟨before, after, split, closed⟩
    rcases List.append_eq_append_iff.mp split with ⟨gap, rfl, joined⟩ | ⟨gap, rfl, joined⟩
    · -- the opener stands after the line feed
      cases gap with
      | nil => simp at joined
      | cons c gap =>
          obtain ⟨-, rfl⟩ := List.cons.inj joined
          exact .inr (.inl ⟨gap, after, rfl, closed⟩)
    · -- the opener stands before the line feed, and the closer on either side
      obtain ⟨x, y, body, rfl⟩ : ∃ x y body, gap = x :: y :: body := by
        match gap, joined with
        | x :: y :: body, _ => exact ⟨x, y, body, rfl⟩
        | [], joined => simp at joined
        | [_], joined => simp at joined
      obtain ⟨rfl, rfl, rfl⟩ : '/' = x ∧ '*' = y ∧ after = body ++ '\n' :: back := by
        simpa using joined
      rcases pair_infix_append.mp closed with inBody | inBack | ⟨-, newline⟩
      · exact .inl ⟨before, body, by simp, inBody⟩
      · rcases pair_infix_cons.mp inBack with ⟨newline, -⟩ | inBack
        · exact absurd newline (by decide)
        · exact .inr (.inr ⟨⟨before, body, by simp⟩, inBack⟩)
      · simp at newline
  · rintro (⟨before, after, rfl, closed⟩ | ⟨before, after, rfl, closed⟩ |
      ⟨⟨before, after, rfl⟩, closed⟩)
    · exact ⟨before, after ++ '\n' :: back, by simp, closed.trans (List.infix_append_left ..)⟩
    · exact ⟨front ++ '\n' :: before, after, by simp, closed⟩
    · refine ⟨before, after ++ '\n' :: back, by simp, ?_⟩
      exact closed.trans ⟨after ++ ['\n'], [], by simp⟩

/-- Joining some of the lines only deletes from joining all of them, by induction on the
sublist relation.
-/
theorem unlines_sublist {kept all : List (List Char)} (sub : kept.Sublist all)
    : (unlines kept).Sublist (unlines all) := by
  induction sub with
  | slnil => exact .slnil
  | @cons kept rest line _ ih =>
      cases rest with
      | nil => exact ih.trans (List.nil_sublist _)
      | cons next rest =>
          rw [unlines_cons_cons]
          exact ih.trans ((List.sublist_cons_self '\n' _).trans (List.sublist_append_right _ _))
  | @cons_cons kept others line sub ih =>
      cases kept with
      | nil =>
          rw [unlines_singleton]
          exact (prefix_unlines_cons line others).sublist
      | cons k ks =>
          cases others with
          | nil => simp at sub
          | cons next others =>
              rw [unlines_cons_cons, unlines_cons_cons]
              exact (ih.cons_cons '\n').append_left line

/-- A block comment in a join of some of the lines is one in the join of all of them, by
induction on the sublist relation.
-/
theorem hasBlockComment_unlines_of_sublist {kept all : List (List Char)} (sub : kept.Sublist all)
    (block : HasBlockComment (unlines kept))
    : HasBlockComment (unlines all) := by
  induction sub with
  | slnil => exact block
  | @cons kept others line _ ih =>
      cases others with
      | nil => exact absurd (ih block) (by simp [unlines, HasBlockComment])
      | cons next others =>
          rw [unlines_cons_cons]
          exact hasBlockComment_append_newline.mpr (.inr (.inl (ih block)))
  | @cons_cons kept others line sub ih =>
      cases kept with
      | nil =>
          cases others with
          | nil => exact block
          | cons next others =>
              rw [unlines_singleton] at block
              rw [unlines_cons_cons]
              exact hasBlockComment_append_newline.mpr (.inl block)
      | cons k ks =>
          cases others with
          | nil => simp at sub
          | cons next others =>
              rw [unlines_cons_cons] at block ⊢
              rcases hasBlockComment_append_newline.mp block with inLine | inRest | ⟨opens, closes⟩
              · exact hasBlockComment_append_newline.mpr (.inl inLine)
              · exact hasBlockComment_append_newline.mpr (.inr (.inl (ih inRest)))
              · have closesAll : ['*', '/'] <:+: unlines (next :: others) := by
                  obtain ⟨inner, member, mark⟩ := (pair_infix_unlines (by decide) (by decide)).mp
                    closes
                  exact (pair_infix_unlines (by decide) (by decide)).mpr
                    ⟨inner, sub.subset member, mark⟩
                exact hasBlockComment_append_newline.mpr (.inr (.inr ⟨opens, closesAll⟩))

-----------------------------------------------------------------------------------------
-- Dropping blank lines
-----------------------------------------------------------------------------------------

/-- Dropping blank lines only deletes. -/
theorem dropBlankLines_sublist (text : List Char) : (dropBlankLines text).Sublist text := by
  have kept : (dropBlankLines text).Sublist (unlines (lines text)) :=
    unlines_sublist List.filter_sublist
  rwa [unlines_lines] at kept

/-- Dropping blank lines makes no mark without a line feed. -/
theorem pair_infix_of_dropBlankLines {a b : Char} (aLine : a ≠ '\n') (bLine : b ≠ '\n')
    {text : List Char} (mark : [a, b] <:+: dropBlankLines text)
    : [a, b] <:+: text := by
  obtain ⟨line, member, inLine⟩ := (pair_infix_unlines aLine bLine).mp mark
  rw [← unlines_lines text]
  exact (pair_infix_unlines aLine bLine).mpr ⟨line, List.mem_of_mem_filter member, inLine⟩

/-- Dropping blank lines makes no block comment. -/
theorem hasBlockComment_of_dropBlankLines {text : List Char}
    (block : HasBlockComment (dropBlankLines text))
    : HasBlockComment text := by
  rw [← unlines_lines text]
  exact hasBlockComment_unlines_of_sublist List.filter_sublist block

/-- Dropping blank lines twice drops nothing more: the kept lines are the lines of the result,
and none of them is blank.
-/
theorem dropBlankLines_dropBlankLines (text : List Char)
    : dropBlankLines (dropBlankLines text) = dropBlankLines text := by
  unfold dropBlankLines
  generalize keptEq : (lines text).filter (fun line => !isBlankLine line) = kept
  cases kept with
  | nil => simp [unlines, lines, isBlankLine]
  | cons line others =>
      have noNewline : ∀ l ∈ line :: others, '\n' ∉ l := by
        intro l member
        rw [← keptEq] at member
        exact newline_not_mem_of_mem_lines (List.mem_of_mem_filter member)
      have filled : ∀ l ∈ line :: others, (!isBlankLine l) = true := by
        intro l member
        rw [← keptEq] at member
        exact (List.mem_filter.mp member).2
      rw [lines_unlines (List.cons_ne_nil _ _) noNewline, List.filter_eq_self.mpr filled]

/-- A line that is not blank is not empty. -/
theorem ne_nil_of_not_blank {line : List Char} (filled : isBlankLine line = false) : line ≠ [] := by
  rintro rfl
  simp [isBlankLine] at filled

/-- Joined filled lines stay at the front when blank lines are dropped from them and whatever
follows, by induction on the lines: the last of them may run on into the next text, but it is
filled, so it is kept.
-/
theorem prefix_dropBlankLines_unlines (rest : List Char) {ls : List (List Char)}
    (nonempty : ls ≠ []) (noNewline : ∀ line ∈ ls, '\n' ∉ line)
    (filled : ∀ line ∈ ls, isBlankLine line = false)
    : unlines ls <+: dropBlankLines (unlines ls ++ rest) := by
  induction ls with
  | nil => exact absurd rfl nonempty
  | cons line others ih =>
      have lineFilled : isBlankLine line = false := filled line (by simp)
      cases others with
      | nil =>
          obtain ⟨first, after, split⟩ := List.exists_cons_of_ne_nil (lines_ne_nil rest)
          have joinedFilled : isBlankLine (line ++ first) = false := by
            simp only [isBlankLine, List.all_append] at lineFilled ⊢
            simp [lineFilled]
          simp only [unlines, List.intercalate_singleton] at ih ⊢
          rw [dropBlankLines, lines_append_of_not_mem rest split (noNewline line (by simp)),
            List.filter_cons_of_pos (by simp [joinedFilled])]
          exact (List.prefix_append _ _).trans (prefix_unlines_cons _ _)
      | cons next others =>
          have inner := ih (List.cons_ne_nil _ _) (fun l member => noNewline l (by simp [member]))
            (fun l member => filled l (by simp [member]))
          have restNonempty : unlines (next :: others) ≠ [] := by
            cases others with
            | nil => simpa [unlines] using ne_nil_of_not_blank (filled next (by simp))
            | cons _ _ => simp [unlines_cons_cons]
          rw [dropBlankLines] at inner ⊢
          rw [unlines_cons_cons, List.append_assoc, List.cons_append,
            lines_append_newline _ (noNewline line (by simp)),
            List.filter_cons_of_pos (by simp [lineFilled])]
          generalize keptEq : (lines (unlines (next :: others) ++ rest)).filter
            (fun line => !isBlankLine line) = kept at inner
          cases kept with
          | nil =>
              obtain ⟨_, gone⟩ := inner
              simp [unlines] at gone
              exact absurd gone.1 restNonempty
          | cons k ks =>
              rw [unlines_cons_cons]
              exact (List.prefix_append_right_inj line).mpr ((List.prefix_cons_inj '\n').mpr inner)

/-- A front whose lines are all filled stays at the front when blank lines are dropped. -/
theorem prefix_dropBlankLines {front : List Char} (rest : List Char)
    (filled : ∀ line ∈ lines front, isBlankLine line = false)
    : front <+: dropBlankLines (front ++ rest) := by
  have joined := prefix_dropBlankLines_unlines rest (lines_ne_nil front)
    (fun _ member => newline_not_mem_of_mem_lines member) filled
  rwa [unlines_lines] at joined

end Decomment.Source
