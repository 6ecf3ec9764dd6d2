/-!
Removing comments.

Two passes delete comments from a text. The line pass deletes, on every line, everything from
the first `//` up to the line feed; the line feed itself stays. The block pass deletes, from the
left, each `/*` together with everything up to and including the first `*/` that begins after
it: `/*/` does not close itself, `/**/` is a whole comment, comments do not nest, and a `/*`
that is never closed stays in the text with everything after it.

Both passes only delete characters; neither knows about string literals.
-/

namespace Decomment.Source

/-- Deletes every line comment. The flag says whether the scan is inside a comment, which lasts
until the next line feed. -/
def lineScan : Bool → List Char → List Char
  | _, [] => []
  | _, '\n' :: rest => '\n' :: lineScan false rest
  | true, _ :: rest => lineScan true rest
  | false, '/' :: '/' :: rest => lineScan true rest
  | false, c :: rest => c :: lineScan false rest

/-- Deletes, on every line, the text from its first `//` to its end. -/
def stripLineComments (text : List Char) : List Char :=
  lineScan false text

/-- The text after the first `*/`, if there is one. -/
def afterCloser : List Char → Option (List Char)
  | [] => none
  | '*' :: '/' :: rest => some rest
  | _ :: rest => afterCloser rest

theorem afterCloser_length {text rest : List Char} (h : afterCloser text = some rest) :
    rest.length < text.length := by
  fun_induction afterCloser text with
  | case1 => simp at h
  | case2 tail =>
    simp only [Option.some.injEq] at h
    subst h
    simp only [List.length_cons]
    omega
  | case3 c tail _ ih =>
    have shorter := ih h
    simp only [List.length_cons]
    omega

-- `found` is used by the termination proof only.
set_option linter.unusedVariables false in
/-- Deletes every block comment, from the left: a `/*` and everything up to the first `*/`
after it. An unclosed `/*` ends the scan and keeps the rest of the text. -/
def stripBlockComments : List Char → List Char
  | [] => []
  | '/' :: '*' :: rest =>
    match found : afterCloser rest with
    | some after => stripBlockComments after
    | none => '/' :: '*' :: rest
  | c :: rest => c :: stripBlockComments rest
termination_by text => text.length
decreasing_by
  all_goals simp only [List.length_cons]
  · have shorter := afterCloser_length found
    omega
  · omega

end Decomment.Source
