import Decomment.Json.Lexeme

/-!
Skipping a JSON value.

`skipValue` reads one value of any kind and returns the input after it; nothing is kept. It
checks what it reads as the strict grammar demands, with the exceptions of a skipper: strings
only have their escapes checked (`skipString`), and a comma must always be followed by another
element, so `[1,]` fails with `expected value` and `{"a":1,}` with `key must be a string`.

The reader keeps a stack of the arrays and objects it is inside and moves between three stages:
expecting a value, just after an opening bracket, and just after a value.
-/

namespace Decomment.Json

/-- An array or an object that the skipper is inside. -/
inductive Frame where
  | list
  | object
deriving DecidableEq, Repr

/-- The bracket that closes a frame. -/
def Frame.closer : Frame → Char
  | .list => ']'
  | .object => '}'

/-- The error when the text ends inside a frame. -/
def Frame.eof : Frame → Problem
  | .list => .eofInList
  | .object => .eofInObject

/-- The error when something else than a comma or the closer follows an element. -/
def Frame.commaOrEnd : Frame → Problem
  | .list => .expectedListCommaOrEnd
  | .object => .expectedObjectCommaOrEnd

/-- Where the skipper is. -/
inductive Stage where
  /-- A value must come. -/
  | value
  /-- A frame was just opened. -/
  | opened (frame : Frame)
  /-- A value was just read. -/
  | after
deriving DecidableEq, Repr

/-- The weight of a stage in the termination measure. -/
def Stage.rank : Stage → Nat
  | .value => 0
  | .opened _ => 1
  | .after => 1

/-- A character that starts a value other than an array or an object. -/
def startsScalar (c : Char) : Bool :=
  c == 'n' || c == 't' || c == 'f' || c == '-' || c == '"' || isDigit c

/-- Skips a value other than an array or an object. -/
def skipScalar (input : List Char) : Except Fault (List Char) :=
  match input with
  | 'n' :: rest => matchWord ['u', 'l', 'l'] rest
  | 't' :: rest => matchWord ['r', 'u', 'e'] rest
  | 'f' :: rest => matchWord ['a', 'l', 's', 'e'] rest
  | '-' :: rest => skipNumber rest
  | '"' :: rest => skipString rest
  | _ => skipNumber input

/-- Skips a key of an object and the colon after it. -/
def skipKey (input : List Char) : Except Fault (List Char) :=
  match skipSpace input with
  | '"' :: rest =>
    match skipString rest with
    | .ok after =>
      match skipSpace after with
      | ':' :: more => .ok more
      | [] => .error ⟨.eofInObject, [], 0⟩
      | other => .error ⟨.expectedColon, other, 1⟩
    | .error e => .error e
  | [] => .error ⟨.eofInObject, [], 0⟩
  | other => .error ⟨.keyMustBeAString, other, 1⟩

theorem skipScalar_length {input rest : List Char} (h : skipScalar input = .ok rest) :
    rest.length < input.length := by
  unfold skipScalar at h
  split at h
  · have := matchWord_length h
    simp only [List.length_cons] at *
    omega
  · have := matchWord_length h
    simp only [List.length_cons] at *
    omega
  · have := matchWord_length h
    simp only [List.length_cons] at *
    omega
  · have := skipNumber_length h
    simp only [List.length_cons]
    omega
  · have := skipString_length h
    simp only [List.length_cons]
    omega
  · exact skipNumber_length h

theorem skipKey_length {input rest : List Char} (h : skipKey input = .ok rest) :
    rest.length < input.length := by
  unfold skipKey at h
  have spaced := skipSpace_length input
  split at h
  · rename_i tail spacedEq
    rw [spacedEq] at spaced
    split at h
    · rename_i after key
      have keyShorter := skipString_length key
      have afterSpaced := skipSpace_length after
      split at h
      · rename_i more colonEq
        cases h
        rw [colonEq] at afterSpaced
        simp only [List.length_cons] at *
        omega
      all_goals cases h
    · cases h
  all_goals cases h

-- `spaced` and `next` are used by the termination proof only.
set_option linter.unusedVariables false in
/-- Skips values: `stack` lists the frames the skipper is inside, innermost first. -/
def skipMachine (stack : List Frame) (stage : Stage) (input : List Char) :
    Except Fault (List Char) :=
  match stage with
  | .value =>
    match spaced : skipSpace input with
    | [] => .error ⟨.eofInValue, [], 0⟩
    | '[' :: rest => skipMachine stack (.opened .list) rest
    | '{' :: rest => skipMachine stack (.opened .object) rest
    | c :: rest =>
      if startsScalar c then
        match next : skipScalar (c :: rest) with
        | .ok after => skipMachine stack .after after
        | .error e => .error e
      else .error ⟨.expectedValue, c :: rest, 1⟩
  | .opened frame =>
    match spaced : skipSpace input with
    | [] => .error ⟨frame.eof, [], 0⟩
    | c :: rest =>
      if c == frame.closer then skipMachine stack .after rest
      else
        match frame with
        | .list => skipMachine (.list :: stack) .value (c :: rest)
        | .object =>
          match next : skipKey (c :: rest) with
          | .ok after => skipMachine (.object :: stack) .value after
          | .error e => .error e
  | .after =>
    match stack with
    | [] => .ok input
    | frame :: up =>
      match spaced : skipSpace input with
      | [] => .error ⟨frame.eof, [], 0⟩
      | c :: rest =>
        if c == ',' then
          match frame with
          | .list => skipMachine (.list :: up) .value rest
          | .object =>
            match next : skipKey rest with
            | .ok after => skipMachine (.object :: up) .value after
            | .error e => .error e
        else if c == frame.closer then skipMachine up .after rest
        else .error ⟨frame.commaOrEnd, c :: rest, 1⟩
termination_by 2 * input.length + stage.rank
decreasing_by
  all_goals
    have bound := skipSpace_length input
    rw [spaced] at bound
  · simp only [List.length_cons, Stage.rank] at *
    omega
  · simp only [List.length_cons, Stage.rank] at *
    omega
  · have shorter := skipScalar_length next
    simp only [List.length_cons, Stage.rank] at *
    omega
  · simp only [List.length_cons, Stage.rank] at *
    omega
  · simp only [List.length_cons, Stage.rank] at *
    omega
  · have shorter := skipKey_length next
    simp only [List.length_cons, Stage.rank] at *
    omega
  · simp only [List.length_cons, Stage.rank] at *
    omega
  · have shorter := skipKey_length next
    simp only [List.length_cons, Stage.rank] at *
    omega
  · simp only [List.length_cons, Stage.rank] at *
    omega

/-- Skips one value and returns the input after it. -/
def skipValue (input : List Char) : Except Fault (List Char) :=
  skipMachine [] .value input

theorem skipSpace_cons {input rest : List Char} {c : Char} (h : skipSpace input = c :: rest) :
    rest.length < input.length := by
  have := skipSpace_length input
  rw [h, List.length_cons] at this
  omega

theorem skipMachine_length {stack : List Frame} {stage : Stage} {input rest : List Char}
    (h : skipMachine stack stage input = .ok rest) : rest.length ≤ input.length := by
  fun_induction skipMachine stack stage input with
  | case1 => cases h
  | case2 _ _ _ spaced ih =>
    have := ih h
    have := skipSpace_cons spaced
    omega
  | case3 _ _ _ spaced ih =>
    have := ih h
    have := skipSpace_cons spaced
    omega
  | case4 _ _ _ _ _ _ spaced _ _ next ih =>
    have := ih h
    have := skipSpace_cons spaced
    have := skipScalar_length next
    simp only [List.length_cons] at *
    omega
  | case5 => cases h
  | case6 => cases h
  | case7 => cases h
  | case8 _ _ _ _ _ spaced _ ih =>
    have := ih h
    have := skipSpace_cons spaced
    omega
  | case9 _ _ _ _ spaced _ ih =>
    have := ih h
    have := skipSpace_cons spaced
    simp only [List.length_cons] at *
    omega
  | case10 _ _ _ _ spaced _ next _ ih =>
    have := ih h
    have := skipSpace_cons spaced
    have := skipKey_length next
    simp only [List.length_cons] at *
    omega
  | case11 => cases h
  | case12 =>
    cases h
    exact Nat.le_refl _
  | case13 => cases h
  | case14 _ _ _ _ spaced _ ih =>
    have := ih h
    have := skipSpace_cons spaced
    omega
  | case15 _ _ _ _ spaced _ _ next ih =>
    have := ih h
    have := skipSpace_cons spaced
    have := skipKey_length next
    omega
  | case16 => cases h
  | case17 _ _ _ _ _ spaced _ _ ih =>
    have := ih h
    have := skipSpace_cons spaced
    omega
  | case18 => cases h

theorem skipValue_length {input rest : List Char} (h : skipValue input = .ok rest) :
    rest.length ≤ input.length :=
  skipMachine_length h


end Decomment.Json
