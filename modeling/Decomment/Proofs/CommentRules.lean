import Decomment.Proofs.BlankLines

/-! The two comment passes, stated without their scans. The block pass deletes the comments that
rules choose from the left: the leftmost `/*` with a `*/` after it opens one, the first `*/` after
that `/*` closes it, and the rules go on after the `*/`; its result is the one output the rules
allow. The line pass works line by line: each line loses the text from its first `//` on, and
every line feed stays.
-/

namespace Decomment.Source

open Decomment.Text

-----------------------------------------------------------------------------------------
-- The block pass as rules
-----------------------------------------------------------------------------------------

/-- An opener whose closer is found leaves the block pass of the text after the closer. -/
theorem stripBlockComments_opener {rest after : List Char} (found : afterCloser rest = some after)
    : stripBlockComments ('/' :: '*' :: rest) = stripBlockComments after := by
  rw [stripBlockComments.eq_2]
  split
  · rename_i closed closedEq
    rw [found] at closedEq
    rw [Option.some.inj closedEq]
  · rename_i missing
    rw [found] at missing
    cases missing

/-- The block pass as rules, from the left. A text without a block comment stays whole.
Otherwise the comment that goes is `/*`, `body`, `*/` with no `/*` in the text `before` it and no
`*/` in `body`: as a `*/` follows, the first says its `/*` is the leftmost that has a `*/` after
it, and the second that its `*/` is the first one after that `/*`. The rules go on after the
`*/`. -/
inductive BlockScan : List Char → List Char → Prop
  | kept {text : List Char} (noComment : ¬ HasBlockComment text) : BlockScan text text
  | deleted {before body after out : List Char}
      (leftmost : ¬ ['/', '*'] <:+: before) (shortest : ¬ ['*', '/'] <:+: body)
      (rest : BlockScan after out)
      : BlockScan (before ++ '/' :: '*' :: (body ++ '*' :: '/' :: after)) (before ++ out)

/-- The rules run past a character that opens no comment. -/
theorem BlockScan.cons {c : Char} {text out : List Char} (scan : BlockScan text out)
    (notOpener : ∀ tail, c = '/' → text = '*' :: tail → False)
    : BlockScan (c :: text) (c :: out) := by
  cases scan with
  | kept noComment =>
      refine .kept ?_
      rw [hasBlockComment_cons]
      rintro (⟨slash, after, split, -⟩ | inner)
      · exact notOpener after slash split
      · exact noComment inner
  | @deleted before body after out leftmost shortest rest =>
      -- a `/*` at `c` would need the text, which starts with `before`, to start with `*`
      have stillLeftmost : ¬ ['/', '*'] <:+: c :: before := by
        rw [pair_infix_cons]
        rintro (⟨slash, next⟩ | inner)
        · obtain ⟨tail, rfl⟩ := List.head?_eq_some_iff.mp next
          exact notOpener _ slash rfl
        · exact leftmost inner
      exact @BlockScan.deleted (c :: before) body after out stillLeftmost shortest rest

/-- The block pass follows the rules, by induction following the pass. -/
theorem blockScan_stripBlockComments (text : List Char)
    : BlockScan text (stripBlockComments text) := by
  fun_induction stripBlockComments text with
  | case1 =>
      refine .kept ?_
      rintro ⟨before, after, split, -⟩
      simp at split
  | case2 rest after found ih =>
      obtain ⟨body, rfl, shortest⟩ := afterCloser_eq_some_iff.mp found
      exact @BlockScan.deleted [] body after _ (by simp) shortest ih
  | case3 rest missing =>
      exact .kept (hasBlockComment_opener.not.mpr (afterCloser_eq_none_iff.mp missing))
  | case4 c rest notOpener ih => exact ih.cons notOpener

/-- What the rules give is what the block pass gives, by induction on the rules. -/
theorem stripBlockComments_of_blockScan {text out : List Char} (scan : BlockScan text out)
    : stripBlockComments text = out := by
  induction scan with
  | kept noComment => exact stripBlockComments_of_not_hasBlockComment noComment
  | @deleted before body after out leftmost shortest _ ih =>
      have found : afterCloser (body ++ '*' :: '/' :: after) = some after :=
        afterCloser_eq_some_iff.mpr ⟨body, rfl, shortest⟩
      rw [stripBlockComments_append _ leftmost (by simp), stripBlockComments_opener found, ih]

/-- The block pass deletes exactly the comments the rules choose: the rules allow one output for
each text, and it is the pass's result. -/
theorem stripBlockComments_eq_iff_blockScan (text out : List Char)
    : stripBlockComments text = out ↔ BlockScan text out :=
  ⟨fun stripped => stripped ▸ blockScan_stripBlockComments text, stripBlockComments_of_blockScan⟩

-- `/*/` does not close itself, `/**/` is a comment, comments do not nest, and an unclosed `/*`
-- stays with everything after it.
example : stripBlockComments "a/*/b*/c/**/d/* x /* y */z */".toList = "acdz */".toList := by
  decide +kernel

example : stripBlockComments "a/* b */c/* d".toList = "ac/* d".toList := by
  decide +kernel

-----------------------------------------------------------------------------------------
-- The line pass, line by line
-----------------------------------------------------------------------------------------

/-- What stays of a line: the text before its first `//`. That `//` starts the first suffix that
begins with `//`; a line without one has no such suffix, the index runs past its end, and the
whole line stays. -/
def beforeLineComment (line : List Char) : List Char :=
  line.take (line.tails.findIdx fun tail => ['/', '/'].isPrefixOf tail)

@[simp] theorem beforeLineComment_nil : beforeLineComment [] = [] := rfl

@[simp] theorem beforeLineComment_comment (rest : List Char)
    : beforeLineComment ('/' :: '/' :: rest) = [] := by
  simp [beforeLineComment, List.findIdx_cons]

theorem beforeLineComment_cons {c : Char} {rest : List Char}
    (notComment : ∀ tail, c = '/' → rest = '/' :: tail → False)
    : beforeLineComment (c :: rest) = c :: beforeLineComment rest := by
  have noMark : ['/', '/'].isPrefixOf (c :: rest) = false := by
    rw [Bool.eq_false_iff]
    intro marked
    obtain ⟨tail, split⟩ := List.isPrefixOf_iff_prefix.mp marked
    simp only [List.cons_append, List.nil_append, List.cons.injEq] at split
    exact notComment tail split.1.symm split.2.symm
  simp only [beforeLineComment, List.tails_cons, List.findIdx_cons, noMark, cond_false,
    List.take_succ_cons]

/-- Inside a comment, the line pass deletes a piece without a line feed. -/
theorem lineScan_true_append {piece : List Char} (rest : List Char) (noFeed : '\n' ∉ piece)
    : lineScan true (piece ++ rest) = lineScan true rest := by
  induction piece with
  | nil => rfl
  | cons c piece ih =>
      have notFeed : c ≠ '\n' := fun same => noFeed (by simp [same])
      rw [List.cons_append, lineScan.eq_3 c _ notFeed]
      exact ih fun member => noFeed (List.mem_cons_of_mem c member)

/-- Outside a comment, the line pass keeps of a line what stands before its first `//`, and
starts afresh at the line feed or the end after it; by induction on the line. -/
theorem lineScan_line {line : List Char} (rest : List Char) (noFeed : '\n' ∉ line)
    (atBreak : rest = [] ∨ ∃ next, rest = '\n' :: next)
    : lineScan false (line ++ rest) = beforeLineComment line ++ lineScan false rest := by
  induction line with
  | nil => rfl
  | cons c line ih =>
      have notFeed : c ≠ '\n' := fun same => noFeed (by simp [same])
      have lineNoFeed : '\n' ∉ line := fun member => noFeed (List.mem_cons_of_mem c member)
      by_cases comment : ∃ tail, c = '/' ∧ line = '/' :: tail
      · obtain ⟨tail, rfl, rfl⟩ := comment
        -- the comment runs to the break, where a scan inside and one outside a comment agree
        have reset : lineScan true rest = lineScan false rest := by
          rcases atBreak with rfl | ⟨next, rfl⟩ <;> rfl
        rw [beforeLineComment_comment, List.nil_append, List.cons_append, List.cons_append,
          lineScan.eq_4, lineScan_true_append rest fun member =>
            lineNoFeed (List.mem_cons_of_mem _ member), reset]
      · have notComment : ∀ tail, c = '/' → line = '/' :: tail → False :=
          fun tail slash split => comment ⟨tail, slash, split⟩
        -- nor does a `//` form across the break, which is a line feed or the end
        have notJoined : ∀ tail, c = '/' → line ++ rest = '/' :: tail → False := by
          intro tail slash split
          cases line with
          | nil =>
              rcases atBreak with rfl | ⟨next, rfl⟩
              · cases split
              · exact absurd (List.cons.inj split).1 (by decide)
          | cons d line =>
              have same : d = '/' := (List.cons.inj split).1
              exact notComment line slash (by rw [same])
        rw [List.cons_append, lineScan.eq_5 c _ notFeed notJoined, ih lineNoFeed,
          beforeLineComment_cons notComment, List.cons_append]

/-- Joined lines go through the line pass one by one, by induction on the lines. -/
theorem lineScan_unlines {ls : List (List Char)} (noFeed : ∀ line ∈ ls, '\n' ∉ line)
    : lineScan false (unlines ls) = unlines (ls.map beforeLineComment) := by
  induction ls with
  | nil => rfl
  | cons line others ih =>
      have lineNoFeed := noFeed line List.mem_cons_self
      cases others with
      | nil =>
          simpa [unlines_singleton, lineScan] using lineScan_line [] lineNoFeed (.inl rfl)
      | cons next others =>
          have restNoFeed : ∀ l ∈ next :: others, '\n' ∉ l :=
            fun l member => noFeed l (List.mem_cons_of_mem line member)
          rw [unlines_cons_cons, lineScan_line _ lineNoFeed (.inr ⟨_, rfl⟩), List.map_cons,
            List.map_cons, unlines_cons_cons, ← List.map_cons, ← ih restNoFeed]
          rfl

/-- The line pass cuts every line before its first `//` and keeps every line feed: its result
is the join of the cut lines. -/
theorem stripLineComments_eq_unlines (text : List Char)
    : stripLineComments text = unlines ((lines text).map beforeLineComment) :=
  calc stripLineComments text = lineScan false (unlines (lines text)) := by
        rw [unlines_lines]
        rfl
    _ = unlines ((lines text).map beforeLineComment) :=
        lineScan_unlines fun _ member => newline_not_mem_of_mem_lines member

-- Runs of slashes, a `//` at the very end, and CR, U+0085 and U+2028 after a `//`.
example : stripLineComments "a///b\r\nc//d\u0085e\u2028f\n//".toList = "a\nc\n".toList := by
  decide

end Decomment.Source
