import Decomment.Config.Json

/-!
JSON documents.

`readDocument` reads a whole JSON text into a `Value`, the way a generic JSON reader does:
keywords by `matchWord`, numbers by `readNumber` (so an integer below `2 ^ 64` stays whole),
strings by `readString` (so a lone surrogate escape is an error), and objects with their members
in the order of the text, a name given twice kept twice. After the value only white space may
follow. Arrays and objects end as a strict reader ends them: a comma before the closing bracket
is a trailing comma, and a member name must be a string.

Like the skipper, the reader is a machine over a stack of the arrays and objects it is inside,
innermost first; here each of them also holds what was read of it so far. It moves between four
stages: a value must come, an array was just opened, an object was just opened, and a value was
just read. It reads to any depth.
-/

namespace Decomment.Json

open Decomment.Config

/-- A JSON value. -/
inductive Value where
  | null
  | bool (b : Bool)
  | number (n : Number)
  | string (s : String)
  | array (items : List Value)
  | object (members : List (String × Value))
deriving Repr

/-- An array or an object the reader is inside, with what was read of it. -/
inductive Open where
  /-- An array and its items so far, the last first. -/
  | array (items : List Value)
  /-- An object, its members so far, the last first, and the name whose value comes next. -/
  | object (members : List (String × Value)) (name : String)

/-- Where the reader is. -/
inductive Phase where
  /-- A value must come. -/
  | value
  /-- An array was just opened. -/
  | openedArray
  /-- An object was just opened. -/
  | openedObject
  /-- A value was just read. -/
  | read (v : Value)

/-- The weight of a phase in the termination measure. -/
def Phase.rank : Phase → Nat
  | .value => 0
  | _ => 1

/-- Reads a value other than an array or an object. -/
def readScalar (input : List Char) : Except Fault (Value × List Char) :=
  match input with
  | 'n' :: rest => (matchWord ['u', 'l', 'l'] rest).map fun after => (.null, after)
  | 't' :: rest => (matchWord ['r', 'u', 'e'] rest).map fun after => (.bool true, after)
  | 'f' :: rest => (matchWord ['a', 'l', 's', 'e'] rest).map fun after => (.bool false, after)
  | '-' :: rest => (readNumber false rest).map fun (n, after) => (.number n, after)
  | '"' :: rest => (readString rest).map fun (s, after) => (.string s, after)
  | _ => (readNumber true input).map fun (n, after) => (.number n, after)

/-- Reads a member name where one must stand, and the colon after it. -/
def memberHead (start : List Char) : Except Fault (String × List Char) :=
  match start with
  | '"' :: more =>
    match readString more with
    | .ok (name, afterName) => (objectColon afterName).map fun rest => (name, rest)
    | .error e => .error e
  | '}' :: more => .error ⟨.trailingComma, '}' :: more, 1⟩
  | [] => .error ⟨.eofInValue, [], 0⟩
  | other => .error ⟨.keyMustBeAString, other, 1⟩

/-- A mapped result that succeeded comes from a result that succeeded. -/
theorem map_eq_ok {α β : Type} {f : α → β} {x : Except Fault α} {b : β}
    (h : x.map f = .ok b) : ∃ a, x = .ok a ∧ f a = b := by
  cases x with
  | error e => cases h
  | ok a => exact ⟨a, rfl, by simpa [Except.map] using h⟩

theorem readScalar_length {input rest : List Char} {v : Value}
    (h : readScalar input = .ok (v, rest)) : rest.length < input.length := by
  unfold readScalar at h
  split at h
  all_goals obtain ⟨result, found, same⟩ := map_eq_ok h
  · cases same
    have := matchWord_length found
    simp only [List.length_cons] at *
    omega
  · cases same
    have := matchWord_length found
    simp only [List.length_cons] at *
    omega
  · cases same
    have := matchWord_length found
    simp only [List.length_cons] at *
    omega
  · cases same
    have := readNumber_length found
    simp only [List.length_cons]
    omega
  · cases same
    have := readString_length found
    simp only [List.length_cons]
    omega
  · cases same
    exact readNumber_length found

theorem memberHead_length {start rest : List Char} {name : String}
    (h : memberHead start = .ok (name, rest)) : rest.length < start.length := by
  unfold memberHead at h
  split at h
  · split at h
    · rename_i afterName read
      rcases map_eq_ok h with ⟨after, colon, same⟩
      cases same
      have := readString_length read
      have := objectColon_length colon
      simp only [List.length_cons]
      omega
    · cases h
  all_goals cases h

-- `spaced` and `next` are used by the termination proof only.
set_option linter.unusedVariables false in
/-- Reads values: `stack` lists the arrays and objects the reader is inside, innermost first.
The reader returns the first value it finishes with an empty stack, and the input after it. -/
def readMachine (stack : List Open) (phase : Phase) (input : List Char) :
    Except Fault (Value × List Char) :=
  match phase, stack with
  | .value, _ =>
    match spaced : skipSpace input with
    | [] => .error ⟨.eofInValue, [], 0⟩
    | '[' :: rest => readMachine stack .openedArray rest
    | '{' :: rest => readMachine stack .openedObject rest
    | c :: rest =>
      if startsScalar c then
        match next : readScalar (c :: rest) with
        | .ok (v, after) => readMachine stack (.read v) after
        | .error e => .error e
      else .error ⟨.expectedValue, c :: rest, 1⟩
  | .openedArray, _ =>
    match spaced : skipSpace input with
    | [] => .error ⟨.eofInList, [], 0⟩
    | ']' :: rest => readMachine stack (.read (.array [])) rest
    | c :: rest => readMachine (.array [] :: stack) .value (c :: rest)
  | .openedObject, _ =>
    match spaced : skipSpace input with
    | [] => .error ⟨.eofInObject, [], 0⟩
    | '}' :: rest => readMachine stack (.read (.object [])) rest
    | c :: rest =>
      match next : memberHead (c :: rest) with
      | .ok (name, after) => readMachine (.object [] name :: stack) .value after
      | .error e => .error e
  | .read v, [] => .ok (v, input)
  | .read v, .array items :: up =>
    match spaced : skipSpace input with
    | [] => .error ⟨.eofInList, [], 0⟩
    | ',' :: rest =>
      match skipSpace rest with
      | ']' :: more => .error ⟨.trailingComma, ']' :: more, 1⟩
      | _ => readMachine (.array (v :: items) :: up) .value rest
    | ']' :: rest => readMachine up (.read (.array (v :: items).reverse)) rest
    | c :: rest => .error ⟨.expectedListCommaOrEnd, c :: rest, 1⟩
  | .read v, .object members name :: up =>
    match spaced : skipSpace input with
    | [] => .error ⟨.eofInObject, [], 0⟩
    | ',' :: rest =>
      match next : memberHead (skipSpace rest) with
      | .ok (following, after) =>
        readMachine (.object ((name, v) :: members) following :: up) .value after
      | .error e => .error e
    | '}' :: rest => readMachine up (.read (.object ((name, v) :: members).reverse)) rest
    | c :: rest => .error ⟨.expectedObjectCommaOrEnd, c :: rest, 1⟩
termination_by 2 * input.length + phase.rank
decreasing_by
  all_goals
    have bound := skipSpace_length input
    rw [spaced] at bound
    simp only [List.length_cons, Phase.rank] at *
  -- a step either reads a bracket, or a scalar or a member name, or moves to the value phase
  -- without reading
  · omega
  · omega
  · have := readScalar_length next
    simp only [List.length_cons] at this
    omega
  · omega
  · omega
  · omega
  · have := memberHead_length next
    simp only [List.length_cons] at this
    omega
  · omega
  · omega
  · have := memberHead_length next
    have := skipSpace_length rest
    omega
  · omega

-----------------------------------------------------------------------------------------
-- Steps of the reader
-----------------------------------------------------------------------------------------

theorem readMachine_value_eq (stack : List Open) (input : List Char)
    : readMachine stack .value input =
      match skipSpace input with
      | [] => .error ⟨.eofInValue, [], 0⟩
      | '[' :: rest => readMachine stack .openedArray rest
      | '{' :: rest => readMachine stack .openedObject rest
      | c :: rest =>
        if startsScalar c then
          match readScalar (c :: rest) with
          | .ok (v, after) => readMachine stack (.read v) after
          | .error e => .error e
        else .error ⟨.expectedValue, c :: rest, 1⟩ := by
  conv => lhs; rw [readMachine]
  split <;> rename_i spaced <;> simp only [spaced]
  split
  · split <;> rename_i read <;> simp only [read]
  · rfl

theorem readMachine_openedArray_eq (stack : List Open) (input : List Char)
    : readMachine stack .openedArray input =
      match skipSpace input with
      | [] => .error ⟨.eofInList, [], 0⟩
      | ']' :: rest => readMachine stack (.read (.array [])) rest
      | c :: rest => readMachine (.array [] :: stack) .value (c :: rest) := by
  conv => lhs; rw [readMachine]
  split <;> rename_i spaced <;> simp only [spaced]

theorem readMachine_openedObject_eq (stack : List Open) (input : List Char)
    : readMachine stack .openedObject input =
      match skipSpace input with
      | [] => .error ⟨.eofInObject, [], 0⟩
      | '}' :: rest => readMachine stack (.read (.object [])) rest
      | c :: rest =>
        match memberHead (c :: rest) with
        | .ok (name, after) => readMachine (.object [] name :: stack) .value after
        | .error e => .error e := by
  conv => lhs; rw [readMachine]
  split <;> rename_i spaced <;> simp only [spaced]
  split <;> rename_i head <;> simp only [head]

theorem readMachine_read_array_eq (v : Value) (items : List Value) (up : List Open)
    (input : List Char)
    : readMachine (.array items :: up) (.read v) input =
      match skipSpace input with
      | [] => .error ⟨.eofInList, [], 0⟩
      | ',' :: rest =>
        match skipSpace rest with
        | ']' :: more => .error ⟨.trailingComma, ']' :: more, 1⟩
        | _ => readMachine (.array (v :: items) :: up) .value rest
      | ']' :: rest => readMachine up (.read (.array (v :: items).reverse)) rest
      | c :: rest => .error ⟨.expectedListCommaOrEnd, c :: rest, 1⟩ := by
  conv => lhs; rw [readMachine]
  split <;> rename_i spaced <;> simp only [spaced]

theorem readMachine_read_object_eq (v : Value) (members : List (String × Value)) (name : String)
    (up : List Open) (input : List Char)
    : readMachine (.object members name :: up) (.read v) input =
      match skipSpace input with
      | [] => .error ⟨.eofInObject, [], 0⟩
      | ',' :: rest =>
        match memberHead (skipSpace rest) with
        | .ok (following, after) =>
          readMachine (.object ((name, v) :: members) following :: up) .value after
        | .error e => .error e
      | '}' :: rest => readMachine up (.read (.object ((name, v) :: members).reverse)) rest
      | c :: rest => .error ⟨.expectedObjectCommaOrEnd, c :: rest, 1⟩ := by
  conv => lhs; rw [readMachine]
  split <;> rename_i spaced <;> simp only [spaced]
  split <;> rename_i head <;> simp only [head]

section Cons

variable {stack : List Open} {input rest : List Char} {c : Char}

theorem readMachine_value_cons (spaced : skipSpace input = c :: rest) (notArray : c ≠ '[')
    (notObject : c ≠ '{')
    : readMachine stack .value input =
      if startsScalar c then
        match readScalar (c :: rest) with
        | .ok (v, after) => readMachine stack (.read v) after
        | .error e => .error e
      else .error ⟨.expectedValue, c :: rest, 1⟩ := by
  rw [readMachine_value_eq, spaced]
  split
  next heq => cases heq
  next r heq => exact absurd (List.cons.inj heq).1 notArray
  next r heq => exact absurd (List.cons.inj heq).1 notObject
  next d r _ _ heq =>
    obtain ⟨rfl, rfl⟩ := List.cons.inj heq
    rfl

theorem readMachine_openedArray_cons (spaced : skipSpace input = c :: rest) (notClosed : c ≠ ']')
    : readMachine stack .openedArray input =
      readMachine (.array [] :: stack) .value (c :: rest) := by
  rw [readMachine_openedArray_eq, spaced]
  split
  next heq => cases heq
  next r heq => exact absurd (List.cons.inj heq).1 notClosed
  next d r _ heq =>
    obtain ⟨rfl, rfl⟩ := List.cons.inj heq
    rfl

theorem readMachine_openedObject_cons (spaced : skipSpace input = c :: rest) (notClosed : c ≠ '}')
    : readMachine stack .openedObject input =
      match memberHead (c :: rest) with
      | .ok (name, after) => readMachine (.object [] name :: stack) .value after
      | .error e => .error e := by
  rw [readMachine_openedObject_eq, spaced]
  split
  next heq => cases heq
  next r heq => exact absurd (List.cons.inj heq).1 notClosed
  next d r _ heq =>
    obtain ⟨rfl, rfl⟩ := List.cons.inj heq
    rfl

variable {v : Value} {up : List Open}

theorem readMachine_read_array_cons {items : List Value} (spaced : skipSpace input = c :: rest)
    (notComma : c ≠ ',') (notClosed : c ≠ ']')
    : readMachine (.array items :: up) (.read v) input =
      .error ⟨.expectedListCommaOrEnd, c :: rest, 1⟩ := by
  rw [readMachine_read_array_eq, spaced]
  split
  next heq => cases heq
  next r heq => exact absurd (List.cons.inj heq).1 notComma
  next r heq => exact absurd (List.cons.inj heq).1 notClosed
  next d r _ _ heq =>
    obtain ⟨rfl, rfl⟩ := List.cons.inj heq
    rfl

theorem readMachine_read_array_comma {items : List Value} (spaced : skipSpace input = ',' :: rest)
    : readMachine (.array items :: up) (.read v) input =
      match skipSpace rest with
      | ']' :: more => .error ⟨.trailingComma, ']' :: more, 1⟩
      | _ => readMachine (.array (v :: items) :: up) .value rest := by
  rw [readMachine_read_array_eq, spaced]
  rfl

theorem readMachine_read_object_cons {members : List (String × Value)} {name : String}
    (spaced : skipSpace input = c :: rest) (notComma : c ≠ ',') (notClosed : c ≠ '}')
    : readMachine (.object members name :: up) (.read v) input =
      .error ⟨.expectedObjectCommaOrEnd, c :: rest, 1⟩ := by
  rw [readMachine_read_object_eq, spaced]
  split
  next heq => cases heq
  next r heq => exact absurd (List.cons.inj heq).1 notComma
  next r heq => exact absurd (List.cons.inj heq).1 notClosed
  next d r _ _ heq =>
    obtain ⟨rfl, rfl⟩ := List.cons.inj heq
    rfl

end Cons

section Steps

variable (stack : List Open) {input rest after : List Char}

theorem readMachine_value_object (spaced : skipSpace input = '{' :: rest) :
    readMachine stack .value input = readMachine stack .openedObject rest := by
  rw [readMachine_value_eq, spaced]
  rfl

theorem readMachine_value_scalar {c : Char} {v : Value} (spaced : skipSpace input = c :: rest)
    (scalar : startsScalar c = true) (read : readScalar (c :: rest) = .ok (v, after)) :
    readMachine stack .value input = readMachine stack (.read v) after := by
  have notArray : c ≠ '[' := by
    rintro rfl
    exact absurd scalar (by decide)
  have notObject : c ≠ '{' := by
    rintro rfl
    exact absurd scalar (by decide)
  rw [readMachine_value_cons spaced notArray notObject, if_pos scalar, read]

theorem readMachine_openedObject_member {c : Char} {name : String}
    (spaced : skipSpace input = c :: rest) (notClosed : c ≠ '}')
    (head : memberHead (c :: rest) = .ok (name, after)) :
    readMachine stack .openedObject input =
      readMachine (.object [] name :: stack) .value after := by
  rw [readMachine_openedObject_cons spaced notClosed, head]

variable {up : List Open} {members : List (String × Value)} {name : String} {v : Value}

theorem readMachine_read_member {following : String} (spaced : skipSpace input = ',' :: rest)
    (head : memberHead (skipSpace rest) = .ok (following, after)) :
    readMachine (.object members name :: up) (.read v) input =
      readMachine (.object ((name, v) :: members) following :: up) .value after := by
  rw [readMachine_read_object_eq, spaced]
  simp only [head]

theorem readMachine_read_close (spaced : skipSpace input = '}' :: rest) :
    readMachine (.object members name :: up) (.read v) input =
      readMachine up (.read (.object ((name, v) :: members).reverse)) rest := by
  rw [readMachine_read_object_eq, spaced]
  rfl

theorem readMachine_read_top (v : Value) (input : List Char) :
    readMachine [] (.read v) input = .ok (v, input) := by
  rw [readMachine]

end Steps

/-- A value read inside frames is read as at the top: the reader runs on the inner frames until
they are closed, and then goes on with the outer ones from the value it finished. By induction
on the run over the inner frames; each step does the same on the outer frames. -/
theorem readMachine_append (s t : List Open) (phase : Phase) (input : List Char)
    : readMachine (s ++ t) phase input =
      (readMachine s phase input).bind fun (v, rest) => readMachine t (.read v) rest := by
  fun_induction readMachine s phase input with
  -- a value
  | case1 stack input spaced =>
    rw [readMachine_value_eq, spaced]
    rfl
  | case2 stack input rest spaced ih =>
    rw [readMachine_value_eq, spaced]
    exact ih
  | case3 stack input rest spaced ih =>
    rw [readMachine_value_eq, spaced]
    exact ih
  | case4 stack input c rest notArray notObject spaced scalar v after read ih =>
    rw [readMachine_value_cons spaced notArray notObject, if_pos scalar, read]
    exact ih
  | case5 stack input c rest notArray notObject spaced scalar e read =>
    rw [readMachine_value_cons spaced notArray notObject, if_pos scalar, read]
    rfl
  | case6 stack input c rest notArray notObject spaced notScalar =>
    rw [readMachine_value_cons spaced notArray notObject, if_neg notScalar]
    rfl
  -- an array just opened
  | case7 stack input spaced =>
    rw [readMachine_openedArray_eq, spaced]
    rfl
  | case8 stack input rest spaced ih =>
    rw [readMachine_openedArray_eq, spaced]
    exact ih
  | case9 stack input c rest notClosed spaced ih =>
    rw [readMachine_openedArray_cons spaced notClosed]
    exact ih
  -- an object just opened
  | case10 stack input spaced =>
    rw [readMachine_openedObject_eq, spaced]
    rfl
  | case11 stack input rest spaced ih =>
    rw [readMachine_openedObject_eq, spaced]
    exact ih
  | case12 stack input c rest notClosed spaced name after head ih =>
    rw [readMachine_openedObject_cons spaced notClosed, head]
    exact ih
  | case13 stack input c rest notClosed spaced e head =>
    rw [readMachine_openedObject_cons spaced notClosed, head]
    rfl
  -- a value just read at the top of the inner frames
  | case14 input v => rfl
  -- a value just read in an array
  | case15 input v items up spaced =>
    rw [List.cons_append, readMachine_read_array_eq, spaced]
    rfl
  | case16 input v items up rest spaced more closed =>
    rw [List.cons_append, readMachine_read_array_comma spaced, closed]
    rfl
  | case17 input v items up rest spaced notClosed ih =>
    rw [List.cons_append, readMachine_read_array_comma spaced]
    split
    next more closed => exact absurd closed (notClosed more)
    next => exact ih
  | case18 input v items up rest spaced ih =>
    rw [List.cons_append, readMachine_read_array_eq, spaced]
    exact ih
  | case19 input v items up c rest notComma notClosed spaced =>
    rw [List.cons_append, readMachine_read_array_cons spaced notComma notClosed]
    rfl
  -- a value just read in an object
  | case20 input v members name up spaced =>
    rw [List.cons_append, readMachine_read_object_eq, spaced]
    rfl
  | case21 input v members name up rest spaced following after head ih =>
    rw [List.cons_append, readMachine_read_object_eq, spaced]
    simp only [head]
    exact ih
  | case22 input v members name up rest spaced e head =>
    rw [List.cons_append, readMachine_read_object_eq, spaced]
    simp only [head]
    rfl
  | case23 input v members name up rest spaced ih =>
    rw [List.cons_append, readMachine_read_object_eq, spaced]
    exact ih
  | case24 input v members name up c rest notComma notClosed spaced =>
    rw [List.cons_append, readMachine_read_object_cons spaced notComma notClosed]
    rfl

/-- Reads one value at the front of the input, and returns the input after it. -/
def readValue (input : List Char) : Except Fault (Value × List Char) :=
  readMachine [] .value input

/-- Reads a JSON text: one value, and only white space after it. -/
def readDocument (text : List Char) : Except Fault Value := do
  let (v, rest) ← readValue text
  endOfText v rest

/-- Reads a JSON text, with the position of an error. -/
def parse (text : String) : Except ParseError Value :=
  (readDocument text.toList).mapError (·.locate text.toList)

-----------------------------------------------------------------------------------------
-- What a step that succeeds did
-----------------------------------------------------------------------------------------

/-- A bound result that succeeded comes from a first result that succeeded. -/
theorem bind_eq_ok {α β : Type} {x : Except Fault α} {f : α → Except Fault β} {b : β}
    (h : x.bind f = .ok b) : ∃ a, x = .ok a ∧ f a = .ok b := by
  cases x with
  | error e => cases h
  | ok a => exact ⟨a, rfl, h⟩

section Inversion

variable {stack : List Open} {input : List Char} {w : Value} {r : List Char}

/-- A value that was read is an array, an object or a scalar, after white space. -/
theorem readMachine_value_ok (h : readMachine stack .value input = .ok (w, r)) :
    (∃ rest, skipSpace input = '[' :: rest ∧
      readMachine stack .openedArray rest = .ok (w, r)) ∨
    (∃ rest, skipSpace input = '{' :: rest ∧
      readMachine stack .openedObject rest = .ok (w, r)) ∨
    (∃ c rest v after, skipSpace input = c :: rest ∧ c ≠ '[' ∧ c ≠ '{' ∧
      readScalar (c :: rest) = .ok (v, after) ∧
      readMachine stack (.read v) after = .ok (w, r)) := by
  cases spaced : skipSpace input with
  | nil =>
    rw [readMachine_value_eq, spaced] at h
    cases h
  | cons c rest =>
    by_cases isArray : c = '['
    · subst isArray
      rw [readMachine_value_eq, spaced] at h
      exact .inl ⟨rest, rfl, h⟩
    by_cases isObject : c = '{'
    · subst isObject
      rw [readMachine_value_eq, spaced] at h
      exact .inr (.inl ⟨rest, rfl, h⟩)
    rw [readMachine_value_cons spaced isArray isObject] at h
    split at h
    · split at h
      next v after read =>
        exact .inr (.inr ⟨c, rest, v, after, rfl, isArray, isObject, read, h⟩)
      next => cases h
    · cases h

/-- An array just opened is closed at once or has a first item. -/
theorem readMachine_openedArray_ok (h : readMachine stack .openedArray input = .ok (w, r)) :
    (∃ rest, skipSpace input = ']' :: rest ∧
      readMachine stack (.read (.array [])) rest = .ok (w, r)) ∨
    (∃ c rest, skipSpace input = c :: rest ∧
      readMachine (.array [] :: stack) .value (c :: rest) = .ok (w, r)) := by
  cases spaced : skipSpace input with
  | nil =>
    rw [readMachine_openedArray_eq, spaced] at h
    cases h
  | cons c rest =>
    by_cases isClosed : c = ']'
    · subst isClosed
      rw [readMachine_openedArray_eq, spaced] at h
      exact .inl ⟨rest, rfl, h⟩
    rw [readMachine_openedArray_cons spaced isClosed] at h
    exact .inr ⟨c, rest, rfl, h⟩

/-- An object just opened is closed at once or has a first member name. -/
theorem readMachine_openedObject_ok (h : readMachine stack .openedObject input = .ok (w, r)) :
    (∃ rest, skipSpace input = '}' :: rest ∧
      readMachine stack (.read (.object [])) rest = .ok (w, r)) ∨
    (∃ c rest name after, skipSpace input = c :: rest ∧ c ≠ '}' ∧
      memberHead (c :: rest) = .ok (name, after) ∧
      readMachine (.object [] name :: stack) .value after = .ok (w, r)) := by
  cases spaced : skipSpace input with
  | nil =>
    rw [readMachine_openedObject_eq, spaced] at h
    cases h
  | cons c rest =>
    by_cases isClosed : c = '}'
    · subst isClosed
      rw [readMachine_openedObject_eq, spaced] at h
      exact .inl ⟨rest, rfl, h⟩
    rw [readMachine_openedObject_cons spaced isClosed] at h
    split at h
    next name after head => exact .inr ⟨c, rest, name, after, rfl, isClosed, head, h⟩
    next => cases h

variable {v : Value} {up : List Open}

/-- After an item of an array comes a comma and the next item, or the closing bracket. -/
theorem readMachine_read_array_ok {items : List Value}
    (h : readMachine (.array items :: up) (.read v) input = .ok (w, r)) :
    (∃ rest, skipSpace input = ',' :: rest ∧
      readMachine (.array (v :: items) :: up) .value rest = .ok (w, r)) ∨
    (∃ rest, skipSpace input = ']' :: rest ∧
      readMachine up (.read (.array (v :: items).reverse)) rest = .ok (w, r)) := by
  cases spaced : skipSpace input with
  | nil =>
    rw [readMachine_read_array_eq, spaced] at h
    cases h
  | cons c rest =>
    by_cases isComma : c = ','
    · subst isComma
      rw [readMachine_read_array_comma spaced] at h
      split at h
      next => cases h
      next => exact .inl ⟨rest, rfl, h⟩
    by_cases isClosed : c = ']'
    · subst isClosed
      rw [readMachine_read_array_eq, spaced] at h
      exact .inr ⟨rest, rfl, h⟩
    rw [readMachine_read_array_cons spaced isComma isClosed] at h
    cases h

/-- After a member of an object comes a comma and the next member name, or the closing
brace. -/
theorem readMachine_read_object_ok {members : List (String × Value)} {name : String}
    (h : readMachine (.object members name :: up) (.read v) input = .ok (w, r)) :
    (∃ rest following after, skipSpace input = ',' :: rest ∧
      memberHead (skipSpace rest) = .ok (following, after) ∧
      readMachine (.object ((name, v) :: members) following :: up) .value after = .ok (w, r)) ∨
    (∃ rest, skipSpace input = '}' :: rest ∧
      readMachine up (.read (.object ((name, v) :: members).reverse)) rest = .ok (w, r)) := by
  cases spaced : skipSpace input with
  | nil =>
    rw [readMachine_read_object_eq, spaced] at h
    cases h
  | cons c rest =>
    by_cases isComma : c = ','
    · subst isComma
      rw [readMachine_read_object_eq, spaced] at h
      simp only at h
      split at h
      next following after head => exact .inl ⟨rest, following, after, rfl, head, h⟩
      next => cases h
    by_cases isClosed : c = '}'
    · subst isClosed
      rw [readMachine_read_close spaced] at h
      exact .inr ⟨rest, rfl, h⟩
    rw [readMachine_read_object_cons spaced isComma isClosed] at h
    cases h

/-- At the top, the value just read is the result. -/
theorem readMachine_read_top_ok (h : readMachine [] (.read v) input = .ok (w, r)) :
    w = v ∧ r = input := by
  rw [readMachine_read_top] at h
  simp only [Except.ok.injEq, Prod.mk.injEq] at h
  exact ⟨h.1.symm, h.2.symm⟩

/-- A value read inside frames is a value read at the top, and the frames go on from it. -/
theorem readMachine_value_framed (h : readMachine stack .value input = .ok (w, r)) :
    ∃ v mid, readValue input = .ok (v, mid) ∧ readMachine stack (.read v) mid = .ok (w, r) := by
  rw [← List.nil_append stack, readMachine_append] at h
  obtain ⟨⟨v, mid⟩, read, rest⟩ := bind_eq_ok h
  exact ⟨v, mid, read, rest⟩

end Inversion

end Decomment.Json
