/-!
Jaro similarity of two words.

Two characters match when they are equal and stand at most `max n m / 2 - 1` places apart, each
character of the second word matching at most one of the first, taken left to right. With `m`
matches and `t` matched pairs out of order (counted in halves), the similarity is
`(m / n + m / k + (m - t) / m) / 3` for words of lengths `n` and `k`; words with no match have
similarity 0, and two empty words 1. The value is computed in binary64 arithmetic, in that order
of operations, so that a threshold compares exactly as it does for that arithmetic.
-/

namespace Decomment.Text

/-- Marks the first unmarked character equal to `c` among those of `word` with index in
`[low, high)`; `index` is the index of the first character given. `none` if there is none. -/
def markFirst (c : Char) (low high : Nat) : Nat → List Char → List Bool → Option (List Bool)
  | index, x :: xs, marked :: rest =>
    if low ≤ index && index < high && x == c && !marked then some (true :: rest)
    else (markFirst c low high (index + 1) xs rest).map (marked :: ·)
  | _, _, _ => none

/-- Which characters of each word match, as marks. -/
def matchMarks (a b : List Char) : List Bool × List Bool :=
  let range := max a.length b.length / 2 - 1
  let step (acc : List Bool × List Bool × Nat) (c : Char) :=
    let (aMarks, bMarks, i) := acc
    match markFirst c (i - range) (min b.length (i + range + 1)) 0 b bMarks with
    | some marks => (true :: aMarks, marks, i + 1)
    | none => (false :: aMarks, bMarks, i + 1)
  let (aMarks, bMarks, _) := a.foldl step ([], List.replicate b.length false, 0)
  (aMarks.reverse, bMarks)

/-- The marked characters of a word, in order. -/
def marked (word : List Char) (marks : List Bool) : List Char :=
  (word.zip marks).filterMap fun (c, m) => if m then some c else none

/-- The Jaro similarity of two words. -/
def jaro (a b : List Char) : Float :=
  if a.isEmpty && b.isEmpty then 1
  else if a.isEmpty || b.isEmpty then 0
  else
    let (aMarks, bMarks) := matchMarks a b
    let fromA := marked a aMarks
    let fromB := marked b bMarks
    let m := fromA.length
    let t := ((fromA.zip fromB).countP fun (x, y) => x != y) / 2
    if m == 0 then 0
    else
      let mf := m.toFloat
      (mf / a.length.toFloat + mf / b.length.toFloat + (m - t).toFloat / mf) / 3

end Decomment.Text
