import Decomment.Json.Value

/-! The skipper passes over what the reader reads. Reading a value and skipping it start from
the same text and check it by the same grammar, the skipper less strictly: it does not decode
strings, so it lets a lone surrogate escape through, and it keeps no values. So wherever the
reader finishes a value, the skipper finishes too, at the same place. The leaves come first:
strings escape by escape, numbers part by part, keywords and member names; then the two
machines, step by step, with the skipper keeping for each array or object of the reader's stack
a frame of its kind. Like the reader, the skipper skips a value inside frames as at the top and
then goes on with the frames (`skipMachine_append`).
-/

namespace Decomment.Json

-----------------------------------------------------------------------------------------
-- Strings
-----------------------------------------------------------------------------------------

theorem skipString_escape {rest after : List Char} (skipped : skipEscape rest = .ok after)
    : skipString ('\\' :: rest) = skipString after := by
  rw [skipString]
  split
  next after' found =>
    rw [skipped] at found
    cases found
    rfl
  next e found =>
    rw [skipped] at found
    cases found

theorem skipString_plain {c : Char} (notQuote : c ≠ '"') (notBackslash : c ≠ '\\')
    (printable : ¬ c.toNat < 0x20) (rest : List Char)
    : skipString (c :: rest) = skipString rest := by
  rw [skipString]
  · rw [if_neg printable]
  · exact notQuote
  · exact notBackslash

theorem skipEscape_of_shortEscape? {c d : Char} (short : shortEscape? c = some d)
    (rest : List Char) : skipEscape (c :: rest) = .ok rest := by
  unfold shortEscape? at short
  split at short <;> cases short <;> rfl

theorem skipEscape_unicode {input rest : List Char} {n : Nat} (read : hex4 input = .ok (n, rest))
    : skipEscape ('u' :: input) = .ok rest := by
  simp [skipEscape, read, Except.map]

/-- An escape that decodes is passed over by the skipper, one `\u` escape at a time for a
surrogate pair. -/
theorem skipString_of_escape {rest after : List Char} {c : Char}
    (decoded : escape rest = .ok (c, after)) : skipString ('\\' :: rest) = skipString after := by
  unfold escape at decoded
  split at decoded
  · cases decoded
  · rename_i r
    unfold unicodeEscape at decoded
    split at decoded
    · cases decoded
    · rename_i n r1 first
      rw [skipString_escape (skipEscape_unicode first)]
      split at decoded
      · cases decoded
      · split at decoded
        · simp only [Except.ok.injEq, Prod.mk.injEq] at decoded
          rw [← decoded.2]
        · -- a leading surrogate: its trailing one is a second escape
          split at decoded
          · rename_i more
            split at decoded
            · cases decoded
            · rename_i low after' second
              split at decoded
              · simp only [Except.ok.injEq, Prod.mk.injEq] at decoded
                rw [← decoded.2]
                exact skipString_escape (skipEscape_unicode second)
              · cases decoded
          all_goals cases decoded
  · rename_i c' r _
    split at decoded
    · rename_i d short
      simp only [Except.ok.injEq, Prod.mk.injEq] at decoded
      rw [← decoded.2]
      exact skipString_escape (skipEscape_of_shortEscape? short r)
    · cases decoded

/-- A string that the reader decodes, the skipper passes over to the same place; by induction
on the reader's run. -/
theorem skipString_of_stringChars {acc input rest : List Char} {s : String}
    (read : stringChars acc input = .ok (s, rest)) : skipString input = .ok rest := by
  fun_induction stringChars acc input with
  | case1 => cases read
  | case2 acc tail =>
    cases read
    rw [skipString]
  | case3 acc tail c after decoded ih =>
    rw [skipString_of_escape decoded]
    exact ih read
  | case4 => cases read
  | case5 => cases read
  | case6 acc c tail notQuote notBackslash printable ih =>
    rw [skipString_plain notQuote notBackslash printable]
    exact ih read

-----------------------------------------------------------------------------------------
-- Numbers
-----------------------------------------------------------------------------------------

section Numbers

variable {positive : Bool} {significand : Nat} {input rest : List Char} {n : Number}

theorem fromParts_rest {exponent : Int}
    (read : fromParts positive significand exponent input = .ok (n, rest)) : rest = input := by
  unfold fromParts at read
  split at read
  · cases read
    rfl
  · cases read

theorem exponentOverflow_rest {zero positiveExp : Bool}
    (read : exponentOverflow positive zero positiveExp input = .ok (n, rest))
    : rest = input.dropWhile isDigit := by
  unfold exponentOverflow at read
  split at read
  · cases read
  · cases read
    rfl

theorem exponentDigits_rest {positiveExp : Bool} {start : Int} {acc : Nat}
    (read : exponentDigits positive significand positiveExp start acc input = .ok (n, rest))
    : rest = input.dropWhile isDigit := by
  induction input generalizing acc with
  | nil => exact fromParts_rest read
  | cons d tail ih =>
    simp only [exponentDigits] at read
    split at read
    · rename_i digit
      rw [List.dropWhile_cons_of_pos digit]
      split at read
      · exact exponentOverflow_rest read
      · exact ih read
    · rename_i notDigit
      rw [List.dropWhile_cons_of_neg notDigit]
      exact fromParts_rest read

theorem skipExponent_of_exponentPart {start : Int}
    (read : exponentPart positive significand start input = .ok (n, rest))
    : skipExponent input = .ok rest := by
  unfold exponentPart at read
  split at read
  rename_i positiveExp digits signed
  -- the skipper passes over the same sign, and then over the same digits
  have sameSign : skipExponent input = skipExponentDigits digits := by
    unfold skipExponent
    split <;> split at signed <;> simp_all
  rw [sameSign]
  split at read
  · cases read
  · rename_i d tail
    split at read
    · rename_i digit
      rw [skipExponentDigits, if_pos digit, exponentDigits_rest read]
    · cases read

theorem skipAfterFraction_of_afterDigits {exponent : Int}
    (read : afterDigits positive significand exponent input = .ok (n, rest))
    : skipAfterFraction input = .ok rest := by
  unfold afterDigits at read
  split at read
  · exact skipExponent_of_exponentPart read
  · exact skipExponent_of_exponentPart read
  · rename_i notE notUpperE
    rw [fromParts_rest read]
    -- the last equation applies, with no exponent to read
    rw [skipAfterFraction]
    · exact notE
    · exact notUpperE

/-- Fraction digits that the reader reads, the skipper passes over, and at least one is read. -/
theorem skipAfterFraction_of_fractionDigits {count : Nat} {before : Int}
    (read : fractionDigits positive significand count before input = .ok (n, rest))
    : skipAfterFraction (input.dropWhile isDigit) = .ok rest ∧
      (count = 0 → ∃ d more, input = d :: more ∧ isDigit d = true) := by
  induction input generalizing significand count with
  | nil =>
    simp only [fractionDigits] at read
    split at read
    · cases read
    · rename_i counted
      exact ⟨skipAfterFraction_of_afterDigits read, fun zero => by simp [zero] at counted⟩
  | cons d tail ih =>
    simp only [fractionDigits] at read
    split at read
    · rename_i digit
      rw [List.dropWhile_cons_of_pos digit]
      refine ⟨?_, fun _ => ⟨d, tail, rfl, digit⟩⟩
      split at read
      · have passed := skipAfterFraction_of_afterDigits read
        rwa [List.dropWhile_cons_of_pos digit] at passed
      · exact (ih read).1
    · rename_i notDigit
      split at read
      · cases read
      · rename_i counted
        rw [List.dropWhile_cons_of_neg notDigit]
        exact ⟨skipAfterFraction_of_afterDigits read, fun zero => by simp [zero] at counted⟩

/-- Without a fraction, what may follow the digits of an integer is what may follow those of a
fraction. -/
theorem skipAfterInteger_eq_skipAfterFraction {d : Char} (notDot : d ≠ '.') (tail : List Char)
    : skipAfterInteger (d :: tail) = skipAfterFraction (d :: tail) := by
  unfold skipAfterInteger skipAfterFraction
  split <;> split <;> simp_all

theorem skipAfterInteger_of_fractionDigits {count : Int}
    (read : fractionDigits positive significand 0 count input = .ok (n, rest))
    : skipAfterInteger ('.' :: input) = .ok rest := by
  obtain ⟨passed, started⟩ := skipAfterFraction_of_fractionDigits read
  obtain ⟨d, more, rfl, digit⟩ := started rfl
  rw [List.dropWhile_cons_of_pos digit] at passed
  simp [skipAfterInteger, digit, passed]

theorem skipAfterInteger_of_longInteger {count : Nat}
    (read : longInteger positive significand count input = .ok (n, rest))
    : skipAfterInteger (input.dropWhile isDigit) = .ok rest := by
  induction input generalizing count with
  | nil =>
    cases fromParts_rest read
    rfl
  | cons d tail ih =>
    simp only [longInteger] at read
    split at read
    · rename_i digit
      rw [List.dropWhile_cons_of_pos digit]
      exact ih read
    · rename_i notDigit
      rw [List.dropWhile_cons_of_neg notDigit]
      split at read
      · rename_i dot
        rw [beq_iff_eq.mp dot]
        exact skipAfterInteger_of_fractionDigits read
      · rename_i notDot
        rw [skipAfterInteger_eq_skipAfterFraction (by simpa using notDot)]
        exact skipAfterFraction_of_afterDigits read

theorem skipAfterInteger_of_afterInteger
    (read : afterInteger positive significand input = .ok (n, rest))
    : skipAfterInteger input = .ok rest := by
  unfold afterInteger at read
  split at read
  · exact skipAfterInteger_of_fractionDigits read
  · exact skipExponent_of_exponentPart read
  · exact skipExponent_of_exponentPart read
  · rename_i notDot notE notUpperE
    cases read
    -- the last equation applies, with neither a fraction nor an exponent to read
    rw [skipAfterInteger]
    · exact notDot
    · exact notE
    · exact notUpperE

theorem skipAfterInteger_of_integerDigits
    (read : integerDigits positive significand input = .ok (n, rest))
    : skipAfterInteger (input.dropWhile isDigit) = .ok rest := by
  induction input generalizing significand with
  | nil => exact skipAfterInteger_of_afterInteger read
  | cons d tail ih =>
    simp only [integerDigits] at read
    split at read
    · rename_i digit
      split at read
      · have passed := skipAfterInteger_of_longInteger read
        rwa [List.dropWhile_cons_of_pos digit] at passed ⊢
      · rw [List.dropWhile_cons_of_pos digit]
        exact ih read
    · rename_i notDigit
      rw [List.dropWhile_cons_of_neg notDigit]
      exact skipAfterInteger_of_afterInteger read

/-- A number that the reader reads, the skipper passes over to the same place. -/
theorem skipNumber_of_readNumber (read : readNumber positive input = .ok (n, rest))
    : skipNumber input = .ok rest := by
  unfold readNumber at read
  split at read
  · cases read
  · rename_i tail
    split at read
    · rename_i d more
      split at read
      · cases read
      · rename_i notDigit
        simp [skipNumber, notDigit, skipAfterInteger_of_afterInteger read]
    · cases skipAfterInteger_of_afterInteger read
      rfl
  · rename_i c tail notZero
    split at read
    · rename_i digit
      -- the second equation applies, the number not starting with zero
      rw [skipNumber, if_pos digit]
      · exact skipAfterInteger_of_integerDigits read
      · exact notZero
    · cases read

end Numbers

-----------------------------------------------------------------------------------------
-- Scalars and member names
-----------------------------------------------------------------------------------------

/-- A scalar that the reader reads, the skipper passes over to the same place. -/
theorem skipScalar_of_readScalar {input rest : List Char} {v : Value}
    (read : readScalar input = .ok (v, rest)) : skipScalar input = .ok rest := by
  unfold readScalar at read
  split at read
  all_goals obtain ⟨result, found, same⟩ := map_eq_ok read
  · cases same
    exact found
  · cases same
    exact found
  · cases same
    exact found
  · cases same
    exact skipNumber_of_readNumber found
  · cases same
    exact skipString_of_stringChars found
  · rename_i notNull notTrue notFalse notMinus notQuote
    cases same
    -- the last equation applies: a number with no sign
    rw [skipScalar]
    · exact skipNumber_of_readNumber found
    all_goals assumption

/-- A member name that the reader reads with its colon, the skipper passes over to the same
place, white space before it included. -/
theorem skipKey_of_memberHead {input after : List Char} {name : String}
    (read : memberHead (skipSpace input) = .ok (name, after)) : skipKey input = .ok after := by
  unfold memberHead at read
  split at read
  · rename_i more spaced
    split at read
    · rename_i name' afterName decoded
      obtain ⟨rest, colon, same⟩ := map_eq_ok read
      cases same
      unfold Config.objectColon at colon
      split at colon
      · rename_i rest' colonSpaced
        cases colon
        simp [skipKey, spaced, skipString_of_stringChars decoded, colonSpaced]
      all_goals cases colon
    · cases read
  all_goals cases read

-----------------------------------------------------------------------------------------
-- Steps of the skipper
-----------------------------------------------------------------------------------------

theorem skipMachine_value_eq (stack : List Frame) (input : List Char)
    : skipMachine stack .value input =
      match skipSpace input with
      | [] => .error ⟨.eofInValue, [], 0⟩
      | '[' :: rest => skipMachine stack (.opened .list) rest
      | '{' :: rest => skipMachine stack (.opened .object) rest
      | c :: rest =>
        if startsScalar c then
          match skipScalar (c :: rest) with
          | .ok after => skipMachine stack .after after
          | .error e => .error e
        else .error ⟨.expectedValue, c :: rest, 1⟩ := by
  conv => lhs; rw [skipMachine]
  split <;> rename_i spaced <;> simp only [spaced]
  split
  · split <;> rename_i skipped <;> simp only [skipped]
  · rfl

theorem skipMachine_opened_eq (stack : List Frame) (frame : Frame) (input : List Char)
    : skipMachine stack (.opened frame) input =
      match skipSpace input with
      | [] => .error ⟨frame.eof, [], 0⟩
      | c :: rest =>
        if c == frame.closer then skipMachine stack .after rest
        else
          match frame with
          | .list => skipMachine (.list :: stack) .value (c :: rest)
          | .object =>
            match skipKey (c :: rest) with
            | .ok after => skipMachine (.object :: stack) .value after
            | .error e => .error e := by
  conv => lhs; rw [skipMachine]
  split <;> rename_i spaced <;> simp only [spaced]
  split
  · rfl
  · split
    · rfl
    · split <;> rename_i key <;> simp only [key]

theorem skipMachine_after_eq (frame : Frame) (up : List Frame) (input : List Char)
    : skipMachine (frame :: up) .after input =
      match skipSpace input with
      | [] => .error ⟨frame.eof, [], 0⟩
      | c :: rest =>
        if c == ',' then
          match frame with
          | .list => skipMachine (.list :: up) .value rest
          | .object =>
            match skipKey rest with
            | .ok after => skipMachine (.object :: up) .value after
            | .error e => .error e
        else if c == frame.closer then skipMachine up .after rest
        else .error ⟨frame.commaOrEnd, c :: rest, 1⟩ := by
  conv => lhs; rw [skipMachine]
  split <;> rename_i spaced <;> simp only [spaced]
  split
  · split
    · rfl
    · split <;> rename_i key <;> simp only [key]
  · rfl

theorem skipMachine_value_cons {stack : List Frame} {input rest : List Char} {c : Char}
    (spaced : skipSpace input = c :: rest) (notArray : c ≠ '[') (notObject : c ≠ '{')
    : skipMachine stack .value input =
      if startsScalar c then
        match skipScalar (c :: rest) with
        | .ok after => skipMachine stack .after after
        | .error e => .error e
      else .error ⟨.expectedValue, c :: rest, 1⟩ := by
  rw [skipMachine_value_eq, spaced]
  split
  next heq => cases heq
  next r heq => exact absurd (List.cons.inj heq).1 notArray
  next r heq => exact absurd (List.cons.inj heq).1 notObject
  next d r _ _ heq =>
    obtain ⟨rfl, rfl⟩ := List.cons.inj heq
    rfl

/-- A value skipped inside frames is skipped as at the top: the skipper runs on the inner frames
until they are closed, and then goes on with the outer ones. By induction on the run over the
inner frames; each step does the same on the outer frames. -/
theorem skipMachine_append (s t : List Frame) (stage : Stage) (input : List Char)
    : skipMachine (s ++ t) stage input =
      (skipMachine s stage input).bind (skipMachine t .after) := by
  fun_induction skipMachine s stage input with
  -- a value
  | case1 stack input spaced =>
    rw [skipMachine_value_eq, spaced]
    rfl
  | case2 stack input rest spaced ih =>
    rw [skipMachine_value_eq, spaced]
    exact ih
  | case3 stack input rest spaced ih =>
    rw [skipMachine_value_eq, spaced]
    exact ih
  | case4 stack input c rest notArray notObject spaced scalar after skipped ih =>
    rw [skipMachine_value_cons spaced notArray notObject, if_pos scalar, skipped]
    exact ih
  | case5 stack input c rest notArray notObject spaced scalar e skipped =>
    rw [skipMachine_value_cons spaced notArray notObject, if_pos scalar, skipped]
    rfl
  | case6 stack input c rest notArray notObject spaced notScalar =>
    rw [skipMachine_value_cons spaced notArray notObject, if_neg notScalar]
    rfl
  -- a list or an object just opened
  | case7 stack input frame spaced =>
    rw [skipMachine_opened_eq, spaced]
    rfl
  | case8 stack input frame c rest spaced closed ih =>
    rw [skipMachine_opened_eq, spaced]
    simp only [if_pos closed]
    exact ih
  | case9 stack input c rest spaced notClosed ih =>
    rw [skipMachine_opened_eq, spaced]
    simp only [if_neg notClosed]
    exact ih
  | case10 stack input c rest spaced after key notClosed ih =>
    rw [skipMachine_opened_eq, spaced]
    simp only [if_neg notClosed, key]
    exact ih
  | case11 stack input c rest spaced e key notClosed =>
    rw [skipMachine_opened_eq, spaced]
    simp only [if_neg notClosed, key]
    rfl
  -- a value just skipped at the top of the inner frames
  | case12 input =>
    rw [List.nil_append]
    rfl
  -- a value just skipped in a list or an object
  | case13 input frame up spaced =>
    rw [List.cons_append, skipMachine_after_eq, spaced]
    rfl
  | case14 input up c rest spaced comma ih =>
    rw [List.cons_append, skipMachine_after_eq, spaced]
    simp only [if_pos comma]
    exact ih
  | case15 input up c rest spaced comma after key ih =>
    rw [List.cons_append, skipMachine_after_eq, spaced]
    simp only [if_pos comma, key]
    exact ih
  | case16 input up c rest spaced comma e key =>
    rw [List.cons_append, skipMachine_after_eq, spaced]
    simp only [if_pos comma, key]
    rfl
  | case17 input frame up c rest spaced notComma closed ih =>
    rw [List.cons_append, skipMachine_after_eq, spaced]
    simp only [if_neg notComma, if_pos closed]
    exact ih
  | case18 input frame up c rest spaced notComma notClosed =>
    rw [List.cons_append, skipMachine_after_eq, spaced]
    simp only [if_neg notComma, if_neg notClosed]
    rfl

-----------------------------------------------------------------------------------------
-- The skipper passes over what the reader reads
-----------------------------------------------------------------------------------------

/-- The frame the skipper keeps for an array or an object the reader is inside. -/
def Open.frame : Open → Frame
  | .array _ => .list
  | .object _ _ => .object

/-- The stage of the skipper at a phase of the reader. -/
def Phase.stage : Phase → Stage
  | .value => .value
  | .openedArray => .opened .list
  | .openedObject => .opened .object
  | .read _ => .after

/-- Wherever the reader finishes a value, the skipper, with the frames of the reader's stack,
finishes at the same place: each step of the reader is a step of the skipper. By induction on
the reader's run. -/
theorem skipMachine_of_readMachine {stack : List Open} {phase : Phase} {input rest : List Char}
    {v : Value}
    : readMachine stack phase input = .ok (v, rest) →
      skipMachine (stack.map Open.frame) phase.stage input = .ok rest := by
  fun_induction readMachine stack phase input with
  | case2 stack input rest' spaced ih =>
    intro read
    rw [Phase.stage, skipMachine_value_eq, spaced]
    exact ih read
  | case3 stack input rest' spaced ih =>
    intro read
    rw [Phase.stage, skipMachine_value_eq, spaced]
    exact ih read
  | case4 stack input c rest' notArray notObject spaced scalar v' after found ih =>
    intro read
    rw [Phase.stage, skipMachine_value_cons spaced notArray notObject, if_pos scalar,
      skipScalar_of_readScalar found]
    exact ih read
  | case8 stack input rest' spaced ih =>
    intro read
    rw [Phase.stage, skipMachine_opened_eq, spaced]
    exact ih read
  | case9 stack input c rest' notClosed spaced ih =>
    intro read
    rw [Phase.stage, skipMachine_opened_eq, spaced]
    simp only [Frame.closer, beq_iff_eq]
    rw [if_neg notClosed]
    exact ih read
  | case11 stack input rest' spaced ih =>
    intro read
    rw [Phase.stage, skipMachine_opened_eq, spaced]
    exact ih read
  | case12 stack input c rest' notClosed spaced name after head ih =>
    intro read
    rw [← skipSpace_of_eq_cons spaced] at head
    rw [Phase.stage, skipMachine_opened_eq, spaced]
    simp only [Frame.closer, beq_iff_eq, skipKey_of_memberHead head]
    rw [if_neg notClosed]
    exact ih read
  | case14 input v' =>
    intro read
    cases read
    rw [Phase.stage, List.map_nil, skipMachine]
  | case17 input v' items up rest' spaced notClosed ih =>
    intro read
    rw [Phase.stage, List.map_cons, Open.frame, skipMachine_after_eq, spaced]
    exact ih read
  | case18 input v' items up rest' spaced ih =>
    intro read
    rw [Phase.stage, List.map_cons, Open.frame, skipMachine_after_eq, spaced]
    exact ih read
  | case21 input v' members name up rest' spaced following after head ih =>
    intro read
    rw [Phase.stage, List.map_cons, Open.frame, skipMachine_after_eq, spaced]
    simp only [skipKey_of_memberHead head]
    exact ih read
  | case23 input v' members name up rest' spaced ih =>
    intro read
    rw [Phase.stage, List.map_cons, Open.frame, skipMachine_after_eq, spaced]
    exact ih read
  -- every other step of the reader ends in an error
  | _ =>
    intro read
    cases read

/-- A value that the reader reads, the skipper passes over to the same place. -/
theorem skipValue_of_readValue {input rest : List Char} {v : Value}
    (read : readValue input = .ok (v, rest)) : skipValue input = .ok rest :=
  skipMachine_of_readMachine read

end Decomment.Json
