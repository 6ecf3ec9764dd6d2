import Decomment.Json.Value
import Decomment.Report
import Decomment.Proofs.Quoted
import Decomment.Proofs.SettingsText

/-! The report as JSON reads back. The compact JSON text of a report is an object of three
members, `output_path`, `original_lines` and `cleaned_lines` in that order. A JSON reader reads
the path back as the text it was, whatever characters it holds, and each count back as the
integer it was as long as it is below `2 ^ 64`, where the reader keeps integers whole; so the
whole text reads as the object of the report's three fields.
-/

namespace Decomment.Json

open Decomment.Config

-----------------------------------------------------------------------------------------
-- Decimal integers
-----------------------------------------------------------------------------------------

/-- The decimal digits of a positive number start with a digit other than zero. -/
theorem toDigits_eq_cons {n : Nat} (pos : 0 < n)
    : ∃ k ds, 0 < k ∧ k < 10 ∧ Nat.toDigits 10 n = Nat.digitChar k :: ds := by
  induction n using Nat.strongRecOn with
  | ind n ih =>
    rcases Nat.lt_or_ge n 10 with small | large
    · exact ⟨n, [], pos, small, Nat.toDigits_of_lt_base small⟩
    · -- the digits of a larger number are those of its tenth and one more
      obtain ⟨k, ds, kPos, kSmall, front⟩ := ih (n / 10) (by omega) (by omega)
      refine ⟨k, ds ++ [Nat.digitChar (n % 10)], kPos, kSmall, ?_⟩
      rw [Nat.toDigits_of_base_le (by decide) large, front, List.cons_append]

theorem isDigit_of_mem_toDigits {n : Nat} {d : Char} (mem : d ∈ Nat.toDigits 10 n)
    : isDigit d = true :=
  Nat.isDigit_of_mem_toDigits (by decide) (by decide) mem

/-- Reading digits adds each of them to the value so far, as long as the value stays within
64 bits; by induction on the digits. -/
theorem integerDigits_append {positive : Bool} {ds : List Char}
    (digits : ∀ d ∈ ds, isDigit d = true) {acc : Nat} (fits : Nat.ofDigitChars 10 ds acc ≤ u64Max)
    (rest : List Char)
    : integerDigits positive acc (ds ++ rest) =
      integerDigits positive (Nat.ofDigitChars 10 ds acc) rest := by
  induction ds generalizing acc with
  | nil => simp
  | cons d ds ih =>
    have shifted : Nat.ofDigitChars 10 (d :: ds) acc =
        Nat.ofDigitChars 10 ds (acc * 10 + digitValue d) := by
      rw [Nat.ofDigitChars_cons, Nat.mul_comm]
      rfl
    rw [shifted] at fits
    -- the value read so far is at most the whole value
    have within : acc * 10 + digitValue d ≤ u64Max := by
      have whole : Nat.ofDigitChars 10 ds (acc * 10 + digitValue d) =
          10 ^ ds.length * (acc * 10 + digitValue d) + Nat.ofDigitChars 10 ds 0 :=
        Nat.ofDigitChars_eq_ofDigitChars_zero
      have : acc * 10 + digitValue d ≤ 10 ^ ds.length * (acc * 10 + digitValue d) :=
        Nat.le_mul_of_pos_left _ (Nat.pow_pos (by decide))
      omega
    rw [List.cons_append, integerDigits, if_pos (digits d List.mem_cons_self), shifted]
    simp only [gt_iff_lt, Nat.not_lt.mpr within, if_false]
    exact ih (fun d' mem => digits d' (List.mem_cons_of_mem _ mem)) fits

/-- After the digits of an integer, a character that neither continues it nor starts a fraction
or an exponent ends it. -/
theorem afterInteger_of_end (positive : Bool) (significand : Nat) {c : Char} (rest : List Char)
    (notFraction : c ≠ '.') (notExponent : c ≠ 'e' ∧ c ≠ 'E')
    : afterInteger positive significand (c :: rest) =
      .ok (integerValue positive significand, c :: rest) := by
  -- the last equation of the definition applies, once the first three patterns are ruled out
  rw [afterInteger]
  · intro r same
    exact notFraction (List.cons.inj same).1
  · intro r same
    exact notExponent.1 (List.cons.inj same).1
  · intro r same
    exact notExponent.2 (List.cons.inj same).1

/-- The decimal digits of a number below `2 ^ 64` read back as that number, when what follows
them ends the number. -/
theorem readNumber_toDigits {n : Nat} (fits : n ≤ u64Max) {c : Char} (rest : List Char)
    (stop : isDigit c = false) (notFraction : c ≠ '.') (notExponent : c ≠ 'e' ∧ c ≠ 'E')
    : readNumber true (Nat.toDigits 10 n ++ c :: rest) = .ok (.unsigned n, c :: rest) := by
  have ends := afterInteger_of_end true n rest notFraction notExponent
  rcases Nat.eq_zero_or_pos n with zero | pos
  · -- zero is the one number written with a leading zero
    subst zero
    rw [Nat.toDigits_zero]
    simpa [readNumber, stop, integerValue] using ends
  · obtain ⟨k, ds, kPos, kSmall, written⟩ := toDigits_eq_cons pos
    have lead : Nat.digitChar k ≠ '0' := by simpa using Nat.ne_of_gt kPos
    have leadDigit : isDigit (Nat.digitChar k) = true :=
      isDigit_of_mem_toDigits (written ▸ List.mem_cons_self)
    have digits : ∀ d ∈ ds, isDigit d = true := fun d mem =>
      isDigit_of_mem_toDigits (written ▸ List.mem_cons_of_mem _ mem)
    -- the value of the digits is the number, starting from the leading one
    have value : Nat.ofDigitChars 10 ds (digitValue (Nat.digitChar k)) = n := by
      have whole := Nat.ofDigitChars_ten_toDigits (n := n)
      rw [written, Nat.ofDigitChars_cons] at whole
      simpa [digitValue] using whole
    -- the last equation of the definition applies, as the leading digit is not zero
    rw [written, List.cons_append, readNumber]
    · rw [if_pos leadDigit, integerDigits_append digits (value ▸ fits), value, integerDigits,
        if_neg (by simp [stop])]
      exact ends
    · exact lead

theorem isSpace_of_isDigit {c : Char} (digit : isDigit c = true) : isSpace c = false := by
  cases spaced : isSpace c with
  | false => rfl
  | true =>
    simp only [isSpace, Bool.or_eq_true, beq_iff_eq] at spaced
    rcases spaced with ((rfl | rfl) | rfl) | rfl <;> exact absurd digit (by decide)

/-- A value that starts with a digit is a number read with a positive sign. -/
theorem readScalar_of_isDigit {d : Char} (digit : isDigit d = true) (rest : List Char)
    : readScalar (d :: rest) =
      (readNumber true (d :: rest)).map fun (n, after) => (.number n, after) := by
  -- the last equation of the definition applies: no other starts with a digit
  rw [readScalar]
  all_goals
    intro r same
    obtain ⟨rfl, -⟩ := List.cons.inj same
    exact absurd digit (by decide)

-----------------------------------------------------------------------------------------
-- Written members read back
-----------------------------------------------------------------------------------------

theorem quoteChars_append (s : String) (rest : List Char)
    : quoteChars s.toList ++ rest = '"' :: ((quote s).toList.tail ++ rest) := by
  simp [quote, quoteChars]

theorem skipSpace_quoteChars (s : String) (rest : List Char)
    : skipSpace (quoteChars s.toList ++ rest) = quoteChars s.toList ++ rest := by
  rw [quoteChars_append]
  exact skipSpace_cons_of_not_space (by decide) _

/-- A member name written as a JSON string reads back, with the colon after it. -/
theorem memberHead_quoteChars (name : String) (rest : List Char)
    : memberHead (quoteChars name.toList ++ ':' :: rest) = .ok (name, rest) := by
  rw [quoteChars_append, memberHead, readString_quote]
  simp [objectColon_colon, Except.map]

/-- A string written as a JSON string reads back. -/
theorem readScalar_quoteChars (s : String) (rest : List Char)
    : readScalar (quoteChars s.toList ++ rest) = .ok (.string s, rest) := by
  rw [quoteChars_append, readScalar, readString_quote]
  rfl

section Written

variable (stack : List Open)

theorem readMachine_value_quoted (s : String) (rest : List Char)
    : readMachine stack .value (quoteChars s.toList ++ rest) =
      readMachine stack (.read (.string s)) rest := by
  have read := readScalar_quoteChars s rest
  have spaced := skipSpace_quoteChars s rest
  rw [quoteChars_append] at read spaced ⊢
  exact readMachine_value_scalar stack spaced (by decide) read

/-- A count written in decimal reads back as the integer it is, below `2 ^ 64`. -/
theorem readMachine_value_count {n : Nat} (fits : n ≤ u64Max) {c : Char} (rest : List Char)
    (stop : isDigit c = false) (notFraction : c ≠ '.') (notExponent : c ≠ 'e' ∧ c ≠ 'E')
    : readMachine stack .value (Nat.toDigits 10 n ++ c :: rest) =
      readMachine stack (.read (.number (.unsigned n))) (c :: rest) := by
  have read := readNumber_toDigits fits rest stop notFraction notExponent
  obtain ⟨d, ds, written⟩ := List.exists_cons_of_ne_nil (Nat.toDigits_ne_nil (b := 10) (n := n))
  have digit : isDigit d = true := isDigit_of_mem_toDigits (written ▸ List.mem_cons_self)
  rw [written, List.cons_append] at read ⊢
  refine readMachine_value_scalar stack
    (skipSpace_cons_of_not_space (isSpace_of_isDigit digit) _) (by simp [startsScalar, digit]) ?_
  rw [readScalar_of_isDigit digit, read]
  rfl

theorem readMachine_openedObject_quoted (name : String) (rest : List Char)
    : readMachine stack .openedObject (quoteChars name.toList ++ ':' :: rest) =
      readMachine (.object [] name :: stack) .value rest := by
  have head := memberHead_quoteChars name rest
  have spaced := skipSpace_quoteChars name (':' :: rest)
  rw [quoteChars_append] at head spaced ⊢
  exact readMachine_openedObject_member stack spaced (by decide) head

theorem readMachine_read_quoted {members : List (String × Value)} {name : String} {v : Value}
    (following : String) (rest : List Char)
    : readMachine (.object members name :: stack) (.read v)
        (',' :: (quoteChars following.toList ++ ':' :: rest)) =
      readMachine (.object ((name, v) :: members) following :: stack) .value rest := by
  refine readMachine_read_member (skipSpace_cons_of_not_space (by decide) _) ?_
  rw [skipSpace_quoteChars]
  exact memberHead_quoteChars following rest

end Written

end Decomment.Json

namespace Decomment

open Decomment.Json

/-- The JSON text of a report, character by character: the three members, the path written as
a JSON string and the counts in decimal. -/
theorem Report.toList_json (r : Report)
    : r.json.toList =
      '{' :: (quoteChars "output_path".toList ++ ':' :: (quoteChars r.outputPath.toList ++ ',' ::
        (quoteChars "original_lines".toList ++ ':' :: (Nat.toDigits 10 r.sourceLines ++ ',' ::
          (quoteChars "cleaned_lines".toList ++ ':' ::
            (Nat.toDigits 10 r.cleanedLines ++ ['}'])))))) := by
  have outputPath : quoteChars "output_path".toList = "\"output_path\"".toList := rfl
  have originalLines : quoteChars "original_lines".toList = "\"original_lines\"".toList := rfl
  have cleanedLines : quoteChars "cleaned_lines".toList = "\"cleaned_lines\"".toList := rfl
  rw [outputPath, originalLines, cleanedLines]
  -- unfolding by `delta` avoids building the equation lemma of `json`, which is slow
  delta Report.json
  simp [quote]

/-- The JSON text of a report reads as the object of its three members, `output_path`,
`original_lines` and `cleaned_lines` in that order, with the report's path and counts as their
values, when the counts fit in 64 bits. -/
theorem report_json_reads_back (r : Report) (sourceFits : r.sourceLines ≤ u64Max)
    (cleanedFits : r.cleanedLines ≤ u64Max)
    : parse r.json =
      .ok (.object [("output_path", .string r.outputPath),
        ("original_lines", .number (.unsigned r.sourceLines)),
        ("cleaned_lines", .number (.unsigned r.cleanedLines))]) := by
  -- the reader goes through the object member by member
  have read : readValue r.json.toList =
      .ok (.object [("output_path", .string r.outputPath),
        ("original_lines", .number (.unsigned r.sourceLines)),
        ("cleaned_lines", .number (.unsigned r.cleanedLines))], []) := by
    rw [readValue, Report.toList_json,
      readMachine_value_object [] (skipSpace_cons_of_not_space (by decide) _),
      readMachine_openedObject_quoted, readMachine_value_quoted, readMachine_read_quoted,
      readMachine_value_count _ sourceFits _ (by decide) (by decide) (by decide),
      readMachine_read_quoted,
      readMachine_value_count _ cleanedFits _ (by decide) (by decide) (by decide),
      readMachine_read_close (skipSpace_cons_of_not_space (by decide) []), readMachine_read_top]
    rfl
  rw [parse, readDocument, read]
  rfl

theorem report_json_reads_back_of_largest_count :
    u64Max ≤ u64Max ∧ 0 ≤ u64Max ∧
      parse (Report.mk "a \"b\"\\\tc/é.sol" u64Max 0).json =
        .ok (.object [("output_path", .string "a \"b\"\\\tc/é.sol"),
          ("original_lines", .number (.unsigned u64Max)),
          ("cleaned_lines", .number (.unsigned 0))]) :=
  ⟨Nat.le_refl _, Nat.zero_le _, report_json_reads_back _ (Nat.le_refl _) (Nat.zero_le _)⟩

end Decomment
