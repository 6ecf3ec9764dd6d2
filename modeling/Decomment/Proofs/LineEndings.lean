import Decomment.Strip
import Decomment.Proofs.Clean

/-! Line endings. Folding leaves no CR and keeps a text without CR as it is, and it turns a text
whose line feeds are all written CR LF, or all written CR, back into the text with LF. Stripping
reads a source only through its folded form, so it gives the same text and the same counts on
the three encodings of one text, and the text it gives holds no CR.
-/

namespace Decomment.Text

/-- A text with each of its line feeds written as `ending`. -/
def withLineEnding (ending : List Char) (text : List Char) : List Char :=
  text.flatMap fun c => if c = '\n' then ending else [c]

@[simp] theorem withLineEnding_nil (ending : List Char) : withLineEnding ending [] = [] := rfl

@[simp] theorem withLineEnding_cons (ending : List Char) (c : Char) (rest : List Char)
    : withLineEnding ending (c :: rest) =
      (if c = '\n' then ending else [c]) ++ withLineEnding ending rest :=
  List.flatMap_cons

/-- Folding leaves no CR: each CR becomes a line feed, with the line feed after it if any, by
induction along the fold. -/
theorem cr_not_mem_foldNewlines (text : List Char) : '\r' ∉ foldNewlines text := by
  fun_induction foldNewlines text with
  | case1 => simp
  | case2 rest ih => simpa using ih
  | case3 rest _ ih => simpa using ih
  | case4 c rest _ notCr ih => simpa [Ne.symm notCr] using ih

/-- A text without CR is already folded, by induction on the text. -/
theorem foldNewlines_of_cr_not_mem {text : List Char} (noCr : '\r' ∉ text)
    : foldNewlines text = text := by
  induction text with
  | nil => rfl
  | cons c rest ih =>
      simp only [List.mem_cons, not_or] at noCr
      rw [foldNewlines_cons (Ne.symm noCr.1), ih noCr.2]

theorem foldNewlines_foldNewlines (text : List Char)
    : foldNewlines (foldNewlines text) = foldNewlines text :=
  foldNewlines_of_cr_not_mem (cr_not_mem_foldNewlines text)

/-- Folding undoes writing every line feed as CR LF, by induction on the text. -/
theorem foldNewlines_withLineEnding_crlf {text : List Char} (noCr : '\r' ∉ text)
    : foldNewlines (withLineEnding ['\r', '\n'] text) = text := by
  induction text with
  | nil => rfl
  | cons c rest ih =>
      simp only [List.mem_cons, not_or] at noCr
      by_cases feed : c = '\n'
      · subst feed
        simp [ih noCr.2]
      · simp [feed, foldNewlines_cons (Ne.symm noCr.1), ih noCr.2]

/-- A text with every line feed written as CR holds no line feed. -/
theorem feed_not_mem_withLineEnding_cr (text : List Char)
    : '\n' ∉ withLineEnding ['\r'] text := by
  simp only [withLineEnding, List.mem_flatMap, not_exists, not_and]
  intro c _
  by_cases feed : c = '\n'
  · simp [feed]
  · simp [feed, Ne.symm feed]

/-- Folding undoes writing every line feed as CR: no CR of such a text is followed by a line
feed, so each one folds alone, by induction on the text. -/
theorem foldNewlines_withLineEnding_cr {text : List Char} (noCr : '\r' ∉ text)
    : foldNewlines (withLineEnding ['\r'] text) = text := by
  induction text with
  | nil => rfl
  | cons c rest ih =>
      simp only [List.mem_cons, not_or] at noCr
      by_cases feed : c = '\n'
      · subst feed
        have noFeed : (withLineEnding ['\r'] rest).head? ≠ some '\n' :=
          fun first => feed_not_mem_withLineEnding_cr rest (List.mem_of_head? first)
        simp [foldNewlines_cr noFeed, ih noCr.2]
      · simp [feed, foldNewlines_cons (Ne.symm noCr.1), ih noCr.2]

end Decomment.Text

namespace Decomment

open Decomment.Text Decomment.Source

/-- The pragma cut keeps the end of a text. -/
theorem suffix_fromPragma (text : List Char) : fromPragma text <:+ text := by
  induction text with
  | nil => exact List.suffix_refl _
  | cons c rest ih =>
      unfold fromPragma pragmaSuffix?
      split
      · exact List.suffix_refl _
      · cases found : pragmaSuffix? rest with
        | none => exact List.suffix_refl _
        | some cut =>
            have inRest : cut <:+ rest := by simpa [fromPragma, found] using ih
            exact inRest.trans (List.suffix_cons c rest)

/-- Stripping reads a source only through its folded form. -/
theorem strip_foldNewlines (keep : Bool) (source : String)
    : strip keep (String.ofList (foldNewlines source.toList)) = strip keep source := by
  simp [strip, preparedSource, foldNewlines_foldNewlines]

/-- Sources whose folded forms agree strip alike. -/
theorem strip_eq_of_foldNewlines {keep : Bool} {source other : String}
    (same : foldNewlines other.toList = foldNewlines source.toList)
    : strip keep other = strip keep source := by
  rw [← strip_foldNewlines keep other, same, strip_foldNewlines]

/-- A stripped text holds no CR: it is taken from the folded source. -/
theorem cr_not_mem_strip (keep : Bool) (source : String)
    : '\r' ∉ (strip keep source).text.toList := by
  have fromFolded : (strip keep source).text.toList.Sublist (foldNewlines source.toList) := by
    have cleaned : (strip keep source).text.toList.Sublist (preparedSource keep source.toList) := by
      simpa [strip] using clean_sublist (preparedSource keep source.toList)
    refine cleaned.trans ?_
    unfold preparedSource
    split
    · exact (suffix_fromPragma _).sublist
    · exact List.Sublist.refl _
  exact fun member => cr_not_mem_foldNewlines source.toList (fromFolded.subset member)

/-- Stripping does not depend on the line-ending convention. Folding leaves no CR and keeps a
text without CR; it turns the CR LF and the CR encodings of such a text back into it; so
stripping the three encodings gives the same text and line counts, and no stripped text holds a
CR.
-/
theorem strip_ignores_line_endings (keep : Bool) (source text : String)
    (noCr : '\r' ∉ text.toList)
    : '\r' ∉ foldNewlines source.toList ∧
      foldNewlines text.toList = text.toList ∧
      foldNewlines (withLineEnding ['\r', '\n'] text.toList) = text.toList ∧
      foldNewlines (withLineEnding ['\r'] text.toList) = text.toList ∧
      strip keep (String.ofList (withLineEnding ['\r', '\n'] text.toList)) = strip keep text ∧
      strip keep (String.ofList (withLineEnding ['\r'] text.toList)) = strip keep text ∧
      '\r' ∉ (strip keep source).text.toList := by
  have folded := foldNewlines_of_cr_not_mem noCr
  have crlf := foldNewlines_withLineEnding_crlf noCr
  have cr := foldNewlines_withLineEnding_cr noCr
  refine ⟨cr_not_mem_foldNewlines _, folded, crlf, cr, ?_, ?_, cr_not_mem_strip keep source⟩
  · exact strip_eq_of_foldNewlines (by rw [String.toList_ofList, crlf, folded])
  · exact strip_eq_of_foldNewlines (by rw [String.toList_ofList, cr, folded])

/-- A header, a pragma and code, with the pragma cut, in a source whose own text has a lone CR
and a CR LF pair before a line feed. -/
theorem strip_ignores_line_endings_of_mixed_source :
    '\r' ∉ "// MIT\npragma solidity ^0.8.0;\n\nuint a; // x\n".toList ∧
      '\r' ∉ foldNewlines "a\r\r\n\n\rb".toList ∧
      foldNewlines "// MIT\npragma solidity ^0.8.0;\n\nuint a; // x\n".toList =
        "// MIT\npragma solidity ^0.8.0;\n\nuint a; // x\n".toList ∧
      foldNewlines (withLineEnding ['\r', '\n']
          "// MIT\npragma solidity ^0.8.0;\n\nuint a; // x\n".toList) =
        "// MIT\npragma solidity ^0.8.0;\n\nuint a; // x\n".toList ∧
      foldNewlines (withLineEnding ['\r']
          "// MIT\npragma solidity ^0.8.0;\n\nuint a; // x\n".toList) =
        "// MIT\npragma solidity ^0.8.0;\n\nuint a; // x\n".toList ∧
      strip true (String.ofList (withLineEnding ['\r', '\n']
          "// MIT\npragma solidity ^0.8.0;\n\nuint a; // x\n".toList)) =
        strip true "// MIT\npragma solidity ^0.8.0;\n\nuint a; // x\n" ∧
      strip true (String.ofList (withLineEnding ['\r']
          "// MIT\npragma solidity ^0.8.0;\n\nuint a; // x\n".toList)) =
        strip true "// MIT\npragma solidity ^0.8.0;\n\nuint a; // x\n" ∧
      '\r' ∉ (strip true "a\r\r\n\n\rb").text.toList := by
  have noCr : '\r' ∉ "// MIT\npragma solidity ^0.8.0;\n\nuint a; // x\n".toList := by decide
  exact ⟨noCr, strip_ignores_line_endings true "a\r\r\n\n\rb" _ noCr⟩

end Decomment
