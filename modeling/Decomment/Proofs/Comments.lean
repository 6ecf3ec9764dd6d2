import Decomment.Source.Comments
import Mathlib.Data.List.Infix

/-! What the two comment passes leave behind. The line pass leaves no `//`; the block pass,
run on a text without `//`, leaves neither `//` nor a block comment. Both passes only delete,
and each keeps whole a front it has nothing to delete in.
-/

namespace Decomment.Source

-----------------------------------------------------------------------------------------
-- Two-character marks
-----------------------------------------------------------------------------------------

/-- A text holds a block comment: a `/*`, and a `*/` that starts after it. -/
def HasBlockComment (text : List Char) : Prop :=
  ∃ before after, text = before ++ '/' :: '*' :: after ∧ ['*', '/'] <:+: after

/-- A two-character mark occurs in `c :: text` at its front or inside `text`. -/
theorem pair_infix_cons {a b c : Char} {text : List Char}
    : [a, b] <:+: c :: text ↔ (c = a ∧ text.head? = some b) ∨ [a, b] <:+: text := by
  rw [List.infix_cons_iff]
  cases text with
  | nil => simp
  | cons d rest => simp [List.cons_prefix_cons, @eq_comm _ a c, @eq_comm _ b d]

/-- A two-character mark occurs in a joined text on one side or across the seam, by induction
on the front.
-/
theorem pair_infix_append {a b : Char} {front back : List Char}
    : [a, b] <:+: front ++ back ↔
      [a, b] <:+: front ∨ [a, b] <:+: back ∨ (front.getLast? = some a ∧ back.head? = some b) := by
  induction front with
  | nil => simp
  | cons c front ih =>
      rw [List.cons_append, pair_infix_cons, ih, pair_infix_cons]
      cases front with
      | nil => simp only [List.nil_append, List.getLast?_singleton, Option.some.injEq]; tauto
      | cons d front =>
          simp only [List.cons_append, List.head?_cons, List.getLast?_cons_cons]
          tauto

/-- A front that holds no mark `ab`, and makes none across its seam with `rest`, does not start
one at its first character.
-/
theorem not_pair_at_front {a b c : Char} {front rest : List Char}
    (clean : ¬ [a, b] <:+: c :: front)
    (seam : (c :: front).getLast? = some a → rest.head? ≠ some b)
    : ∀ tail, c = a → front ++ rest = b :: tail → False := by
  rintro tail rfl joined
  cases front with
  | nil => exact seam rfl (by rw [List.nil_append] at joined; simp [joined])
  | cons d front =>
      have same : d = b := (List.cons.inj joined).1
      exact clean (pair_infix_cons.mpr (.inl ⟨rfl, by simp [same]⟩))

/-- The seam condition of `c :: front` passes to `front`. -/
theorem seam_of_cons {a b c : Char} {front rest : List Char}
    (seam : (c :: front).getLast? = some a → rest.head? ≠ some b)
    : front.getLast? = some a → rest.head? ≠ some b := by
  intro last
  cases front with
  | nil => simp at last
  | cons d front => exact seam (by simpa [List.getLast?_cons_cons] using last)

/-- A block comment in `c :: text` opens at `c` or lies inside `text`. -/
theorem hasBlockComment_cons {c : Char} {text : List Char}
    : HasBlockComment (c :: text) ↔
      (c = '/' ∧ ∃ after, text = '*' :: after ∧ ['*', '/'] <:+: after) ∨ HasBlockComment text := by
  constructor
  · rintro ⟨before, after, split, closed⟩
    cases before with
    | nil =>
        obtain ⟨slash, rest⟩ := List.cons.inj split
        exact .inl ⟨slash, after, rest, closed⟩
    | cons d before => exact .inr ⟨before, after, (List.cons.inj split).2, closed⟩
  · rintro (⟨rfl, after, rfl, closed⟩ | ⟨before, after, rfl, closed⟩)
    · exact ⟨[], after, rfl, closed⟩
    · exact ⟨c :: before, after, rfl, closed⟩

/-- A text that opens with `/*` holds a block comment exactly when a `*/` follows the opener. -/
theorem hasBlockComment_opener {rest : List Char}
    : HasBlockComment ('/' :: '*' :: rest) ↔ ['*', '/'] <:+: rest := by
  rw [hasBlockComment_cons, hasBlockComment_cons]
  constructor
  · rintro (⟨-, after, same, closed⟩ | ⟨star, -⟩ | ⟨before, after, rfl, closed⟩)
    · rw [(List.cons.inj same).2]
      exact closed
    · exact absurd star (by decide)
    · exact closed.trans ⟨before ++ ['/', '*'], [], by simp⟩
  · intro closed
    exact .inl ⟨rfl, rest, rfl, closed⟩

-----------------------------------------------------------------------------------------
-- The line pass
-----------------------------------------------------------------------------------------

/-- The line pass starts its output with `/` only outside a comment and at a text that starts
with `/`, by induction following the scan.
-/
theorem lineScan_head {inside : Bool} {text : List Char}
    (slash : (lineScan inside text).head? = some '/')
    : inside = false ∧ text.head? = some '/' := by
  fun_induction lineScan inside text with
  | case1 | case2 => simp at slash
  | case3 head rest newline ih => exact absurd (ih slash).1 (by simp)
  | case4 rest ih => exact absurd (ih slash).1 (by simp)
  | case5 c rest newline notDouble ih =>
      simp only [List.head?_cons, Option.some.injEq] at slash
      simp [slash]

/-- The line pass leaves no `//`, by induction following the scan. A kept `/` is followed by
the scan of a text that does not start with `/`, which cannot start with `/` either.
-/
theorem lineScan_no_doubleSlash (inside : Bool) (text : List Char)
    : ¬ ['/', '/'] <:+: lineScan inside text := by
  fun_induction lineScan inside text with
  | case1 => simp
  | case2 _ rest ih =>
      rw [pair_infix_cons]
      rintro (⟨newline, -⟩ | inner)
      · exact absurd newline (by decide)
      · exact ih inner
  | case3 head rest newline ih => exact ih
  | case4 rest ih => exact ih
  | case5 c rest newline notDouble ih =>
      rw [pair_infix_cons]
      rintro (⟨rfl, next⟩ | inner)
      · obtain ⟨tail, rfl⟩ := List.head?_eq_some_iff.mp (lineScan_head next).2
        exact notDouble tail rfl rfl
      · exact ih inner

/-- The line pass only deletes. -/
theorem lineScan_sublist (inside : Bool) (text : List Char)
    : (lineScan inside text).Sublist text := by
  fun_induction lineScan inside text with
  | case1 => exact .slnil
  | case2 _ rest ih => exact ih.cons_cons _
  | case3 head rest _ ih => exact ih.cons _
  | case4 rest ih => exact (ih.cons _).cons _
  | case5 c rest _ _ ih => exact ih.cons_cons _

/-- Outside a comment, the line pass keeps whole a front that holds no `//` and makes none
across its seam, and goes on after it; by induction on the front.
-/
theorem lineScan_append {front : List Char} (rest : List Char)
    (clean : ¬ ['/', '/'] <:+: front)
    (seam : front.getLast? = some '/' → rest.head? ≠ some '/')
    : lineScan false (front ++ rest) = front ++ lineScan false rest := by
  induction front with
  | nil => rfl
  | cons c front ih =>
      have frontClean : ¬ ['/', '/'] <:+: front := fun inner => clean (List.infix_cons inner)
      rw [List.cons_append]
      by_cases newline : c = '\n'
      · subst newline
        rw [lineScan.eq_2, ih frontClean (seam_of_cons seam)]
        rfl
      · rw [lineScan.eq_5 c _ newline (not_pair_at_front clean seam),
          ih frontClean (seam_of_cons seam)]
        rfl

/-- The line pass changes no text without `//`. -/
theorem lineScan_of_no_doubleSlash {text : List Char} (clean : ¬ ['/', '/'] <:+: text)
    : lineScan false text = text := by
  simpa [lineScan] using lineScan_append [] clean (by simp)

-----------------------------------------------------------------------------------------
-- The block pass
-----------------------------------------------------------------------------------------

/-- The closer search fails exactly on a text without `*/`. -/
theorem afterCloser_eq_none_iff {text : List Char}
    : afterCloser text = none ↔ ¬ ['*', '/'] <:+: text := by
  fun_induction afterCloser text with
  | case1 => simp
  | case2 rest => simpa using List.infix_append [] ['*', '/'] rest
  | case3 c rest notCloser ih =>
      rw [ih, pair_infix_cons]
      constructor
      · rintro noCloser (⟨star, next⟩ | inner)
        · obtain ⟨tail, rfl⟩ := List.head?_eq_some_iff.mp next
          exact notCloser tail star rfl
        · exact noCloser inner
      · exact fun noCloser inner => noCloser (.inr inner)

/-- The closer search returns the text after the first `*/`. -/
theorem afterCloser_eq_some_iff {text after : List Char}
    : afterCloser text = some after ↔
      ∃ body, text = body ++ '*' :: '/' :: after ∧ ¬ ['*', '/'] <:+: body := by
  constructor
  · intro found
    fun_induction afterCloser text with
    | case1 => simp at found
    | case2 rest =>
        obtain rfl := Option.some.inj found
        exact ⟨[], rfl, by simp⟩
    | case3 c rest notCloser ih =>
        obtain ⟨body, rfl, unclosed⟩ := ih found
        refine ⟨c :: body, rfl, ?_⟩
        rw [pair_infix_cons]
        rintro (⟨star, next⟩ | inner)
        · obtain ⟨tail, rfl⟩ := List.head?_eq_some_iff.mp next
          exact notCloser _ star rfl
        · exact unclosed inner
  · rintro ⟨body, rfl, unclosed⟩
    induction body with
    | nil => rfl
    | cons c body ih =>
        -- a `*/` at `c` would lie in the body, or have its `/` at the closer's `*`
        have notCloser : ∀ tail, c = '*' → body ++ '*' :: '/' :: after = '/' :: tail → False := by
          intro tail star split
          cases body with
          | nil => exact absurd (List.cons.inj split).1 (by decide)
          | cons d body =>
              have slash : d = '/' := (List.cons.inj split).1
              exact unclosed (pair_infix_cons.mpr (.inl ⟨star, by simp [slash]⟩))
        rw [List.cons_append, afterCloser.eq_3 c _ notCloser]
        exact ih fun inner => unclosed (List.infix_cons inner)

/-- The text after a closed comment is a suffix of the text. -/
theorem suffix_of_afterCloser {rest after : List Char} (found : afterCloser rest = some after)
    : after <:+ '/' :: '*' :: rest := by
  obtain ⟨body, rfl, -⟩ := afterCloser_eq_some_iff.mp found
  exact ⟨'/' :: '*' :: body ++ ['*', '/'], by simp⟩

/-- The block pass keeps any character other than `/` and goes on after it. -/
theorem stripBlockComments_cons_of_ne_slash {c : Char} (rest : List Char) (notSlash : c ≠ '/')
    : stripBlockComments (c :: rest) = c :: stripBlockComments rest :=
  stripBlockComments.eq_3 c rest fun _ slash _ => notSlash slash

/-- The block pass only deletes. -/
theorem stripBlockComments_sublist (text : List Char)
    : (stripBlockComments text).Sublist text := by
  fun_induction stripBlockComments text with
  | case1 => exact .slnil
  | case2 rest after found ih => exact ih.trans (suffix_of_afterCloser found).sublist
  | case3 => exact .refl _
  | case4 c rest _ ih => exact ih.cons_cons c

/-- On a text without `//`, the block pass leaves neither `//` nor a block comment, by
induction following the pass. A deleted comment leaves the pass of the text after it; a kept
`/` is followed by the pass of a text that starts with neither `/` nor `*`, which keeps that
first character, so no mark forms at the `/`.
-/
theorem stripBlockComments_clean {text : List Char} (noDouble : ¬ ['/', '/'] <:+: text)
    : ¬ ['/', '/'] <:+: stripBlockComments text ∧ ¬ HasBlockComment (stripBlockComments text) := by
  fun_induction stripBlockComments text with
  | case1 => exact ⟨by simp, fun ⟨before, after, split, _⟩ => by simp at split⟩
  | case2 rest after found ih =>
      exact ih fun inner => noDouble (inner.trans (suffix_of_afterCloser found).isInfix)
  | case3 rest missing =>
      exact ⟨noDouble, hasBlockComment_opener.not.mpr (afterCloser_eq_none_iff.mp missing)⟩
  | case4 c rest notOpener ih =>
      obtain ⟨restDouble, restBlock⟩ := ih fun inner => noDouble (List.infix_cons inner)
      -- after a kept `/`, the rest starts with a character that the pass keeps in front
      have front : c = '/' → ∀ x, (stripBlockComments rest).head? = some x → x ≠ '/' ∧ x ≠ '*' := by
        rintro rfl x first
        cases rest with
        | nil => simp [stripBlockComments] at first
        | cons d tail =>
            have notSlash : d ≠ '/' := fun same =>
              noDouble (pair_infix_cons.mpr (.inl ⟨rfl, by simp [same]⟩))
            have notStar : d ≠ '*' := fun same => notOpener tail rfl (by rw [same])
            rw [stripBlockComments_cons_of_ne_slash tail notSlash] at first
            obtain rfl : d = x := by simpa using first
            exact ⟨notSlash, notStar⟩
      refine ⟨?_, ?_⟩
      · rw [pair_infix_cons]
        rintro (⟨slash, next⟩ | inner)
        · exact (front slash '/' next).1 rfl
        · exact restDouble inner
      · rw [hasBlockComment_cons]
        rintro (⟨slash, after, opened, -⟩ | inner)
        · exact (front slash '*' (by simp [opened])).2 rfl
        · exact restBlock inner

/-- The block pass changes no text without a block comment. -/
theorem stripBlockComments_of_not_hasBlockComment {text : List Char}
    (noComment : ¬ HasBlockComment text)
    : stripBlockComments text = text := by
  fun_induction stripBlockComments text with
  | case1 => rfl
  | case2 rest after found _ =>
      obtain ⟨body, rfl, -⟩ := afterCloser_eq_some_iff.mp found
      exact absurd (hasBlockComment_opener.mpr ⟨body, after, by simp⟩) noComment
  | case3 => rfl
  | case4 c rest _ ih => rw [ih fun inner => noComment (hasBlockComment_cons.mpr (.inr inner))]

/-- The block pass keeps whole a front that holds no `/*` and makes none across its seam, and
goes on after it; by induction on the front.
-/
theorem stripBlockComments_append {front : List Char} (rest : List Char)
    (clean : ¬ ['/', '*'] <:+: front)
    (seam : front.getLast? = some '/' → rest.head? ≠ some '*')
    : stripBlockComments (front ++ rest) = front ++ stripBlockComments rest := by
  induction front with
  | nil => rfl
  | cons c front ih =>
      have frontClean : ¬ ['/', '*'] <:+: front := fun inner => clean (List.infix_cons inner)
      rw [List.cons_append, stripBlockComments.eq_3 c _ (not_pair_at_front clean seam),
        ih frontClean (seam_of_cons seam)]
      rfl

end Decomment.Source
