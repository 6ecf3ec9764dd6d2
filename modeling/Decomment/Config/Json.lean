import Decomment.Config.Fields
import Decomment.Json.Skip

/-!
Settings from JSON text.

The settings are read from a JSON object or array, in one pass, and errors are reported where
the pass meets them:

* an object names any of `input`, `output` (strings) and `keep_pragma_only` (a boolean); other
  members are skipped, a name given twice is an error as soon as it is read (before its colon),
  and missing ones keep their defaults;
* an array gives the same three values in that order, and may stop early;
* anything else is a type error, as is a value of the wrong kind;
* after the value only white space may follow.

A type error names what was found (`Unexpected`), after reading it: a keyword, number or string
is read whole first, so its own errors come first.
-/

namespace Decomment.Config

open Decomment.Json

/-- The type error for the value at the front of the input, or the error met while reading that
value. -/
def mismatchAt (input : List Char) (expected : Expected) : Fault :=
  match input with
  | 'n' :: rest =>
    match matchWord ['u', 'l', 'l'] rest with
    | .ok after => ⟨.invalidType .null expected, after, 0⟩
    | .error e => e
  | 't' :: rest =>
    match matchWord ['r', 'u', 'e'] rest with
    | .ok after => ⟨.invalidType (.bool true) expected, after, 0⟩
    | .error e => e
  | 'f' :: rest =>
    match matchWord ['a', 'l', 's', 'e'] rest with
    | .ok after => ⟨.invalidType (.bool false) expected, after, 0⟩
    | .error e => e
  | '-' :: rest =>
    match readNumber false rest with
    | .ok (n, after) => ⟨.invalidType n.unexpected expected, after, 0⟩
    | .error e => e
  | '"' :: rest =>
    match readString rest with
    | .ok (s, after) => ⟨.invalidType (.string s) expected, after, 0⟩
    | .error e => e
  | '[' :: _ => ⟨.invalidType .sequence expected, input, 0⟩
  | '{' :: _ => ⟨.invalidType .map expected, input, 0⟩
  | c :: _ =>
    if isDigit c then
      match readNumber true input with
      | .ok (n, after) => ⟨.invalidType n.unexpected expected, after, 0⟩
      | .error e => e
    else ⟨.expectedValue, input, 1⟩
  | [] => ⟨.expectedValue, [], 0⟩

/-- Reads a path, which must be a string. -/
def readPath (input : List Char) : Except Fault (String × List Char) :=
  match skipSpace input with
  | [] => .error ⟨.eofInValue, [], 0⟩
  | '"' :: rest => readString rest
  | other => .error (mismatchAt other .path)

/-- Reads a boolean. -/
def readBool (input : List Char) : Except Fault (Bool × List Char) :=
  match skipSpace input with
  | [] => .error ⟨.eofInValue, [], 0⟩
  | 't' :: rest => (matchWord ['r', 'u', 'e'] rest).map fun after => (true, after)
  | 'f' :: rest => (matchWord ['a', 'l', 's', 'e'] rest).map fun after => (false, after)
  | other => .error (mismatchAt other .bool)

/-- Reads the next element of an array with `read`; `none` at the closing bracket, which stays
unread. `first` says that no element was read yet. -/
def nextElement {α : Type} (first : Bool) (read : List Char → Except Fault (α × List Char))
    (input : List Char) : Except Fault (Option α × List Char) :=
  match skipSpace input with
  | [] => .error ⟨.eofInList, [], 0⟩
  | ']' :: rest => .ok (none, ']' :: rest)
  | c :: rest =>
    if first then (read (c :: rest)).map fun (a, after) => (some a, after)
    else if c == ',' then
      match skipSpace rest with
      | ']' :: more => .error ⟨.trailingComma, ']' :: more, 1⟩
      | [] => .error ⟨.eofInValue, [], 0⟩
      | other => (read other).map fun (a, after) => (some a, after)
    else .error ⟨.expectedListCommaOrEnd, c :: rest, 1⟩

/-- Reads the elements of an array after its opening bracket: input, output and the switch, as
far as they are given. -/
def readElements (input : List Char) : Except Fault (Settings × List Char) := do
  match ← nextElement true readPath input with
  | (none, r) => return ({}, r)
  | (some i, r) =>
    match ← nextElement false readPath r with
    | (none, r) => return ({ input := i }, r)
    | (some o, r) =>
      match ← nextElement false readBool r with
      | (none, r) => return ({ input := i, output := o }, r)
      | (some k, r) => return ({ input := i, output := o, keepPragmaOnly := k }, r)

/-- Reads the end of an array whose elements have all been read. -/
def endArray (input : List Char) : Except Fault (List Char) :=
  match skipSpace input with
  | ']' :: rest => .ok rest
  | ',' :: rest =>
    match skipSpace rest with
    | ']' :: more => .error ⟨.trailingComma, ']' :: more, 1⟩
    | other => .error ⟨.trailingCharacters, other, 1⟩
  | [] => .error ⟨.eofInList, [], 0⟩
  | other => .error ⟨.trailingCharacters, other, 1⟩

/-- Reads a member name where one must stand. -/
def memberName (start : List Char) : Except Fault (Option (String × List Char)) :=
  match start with
  | '"' :: more => (readString more).map some
  | '}' :: more => .error ⟨.trailingComma, '}' :: more, 1⟩
  | [] => .error ⟨.eofInValue, [], 0⟩
  | other => .error ⟨.keyMustBeAString, other, 1⟩

/-- Reads the next member name of an object; `none` at the closing brace, which stays unread.
`first` says that no member was read yet; after one, a comma must come first. -/
def nextKey (first : Bool) (input : List Char) : Except Fault (Option (String × List Char)) :=
  match skipSpace input with
  | [] => .error ⟨.eofInObject, [], 0⟩
  | '}' :: _ => .ok none
  | c :: rest =>
    if first then memberName (c :: rest)
    else if c == ',' then memberName (skipSpace rest)
    else .error ⟨.expectedObjectCommaOrEnd, c :: rest, 1⟩

/-- Reads the colon after a member name. -/
def objectColon (input : List Char) : Except Fault (List Char) :=
  match skipSpace input with
  | ':' :: rest => .ok rest
  | [] => .error ⟨.eofInObject, [], 0⟩
  | other => .error ⟨.expectedColon, other, 1⟩

/-- Where a member name given twice is reported. The name is refused as soon as it is read, and
the place is taken after the closing of the object has been tried: past the white space after
the name, and past a closing brace if one follows. -/
def duplicateAt (afterKey : List Char) : List Char :=
  match skipSpace afterKey with
  | '}' :: rest => rest
  | other => other

theorem stringChars_length {acc input rest : List Char} {s : String}
    (h : stringChars acc input = .ok (s, rest)) : rest.length < input.length := by
  fun_induction stringChars acc input with
  | case1 => cases h
  | case2 acc tail =>
    simp only [Except.ok.injEq, Prod.mk.injEq] at h
    obtain ⟨-, rfl⟩ := h
    simp
  | case3 acc tail c after next ih =>
    have shorter := escape_length next
    have := ih h
    simp only [List.length_cons]
    omega
  | case4 => cases h
  | case5 => cases h
  | case6 acc c tail _ _ _ ih =>
    have := ih h
    simp only [List.length_cons]
    omega

theorem readString_length {input rest : List Char} {s : String}
    (h : readString input = .ok (s, rest)) : rest.length < input.length :=
  stringChars_length h

theorem readPath_length {input rest : List Char} {s : String}
    (h : readPath input = .ok (s, rest)) : rest.length < input.length := by
  unfold readPath at h
  have spaced := skipSpace_length input
  split at h
  · cases h
  · rename_i tail eq
    rw [eq] at spaced
    have := readString_length h
    simp only [List.length_cons] at *
    omega
  · cases h

theorem readBool_length {input rest : List Char} {b : Bool}
    (h : readBool input = .ok (b, rest)) : rest.length < input.length := by
  unfold readBool at h
  have spaced := skipSpace_length input
  split at h
  · cases h
  · rename_i tail eq
    rw [eq] at spaced
    cases read : matchWord ['r', 'u', 'e'] tail with
    | error e =>
      rw [read] at h
      cases h
    | ok after =>
      rw [read] at h
      cases h
      have := matchWord_length read
      simp only [List.length_cons] at *
      omega
  · rename_i tail eq
    rw [eq] at spaced
    cases read : matchWord ['a', 'l', 's', 'e'] tail with
    | error e =>
      rw [read] at h
      cases h
    | ok after =>
      rw [read] at h
      cases h
      have := matchWord_length read
      simp only [List.length_cons] at *
      omega
  · cases h

theorem objectColon_length {input rest : List Char} (h : objectColon input = .ok rest) :
    rest.length < input.length := by
  unfold objectColon at h
  have spaced := skipSpace_length input
  split at h
  · rename_i tail eq
    cases h
    rw [eq] at spaced
    simp only [List.length_cons] at spaced
    omega
  all_goals cases h

theorem memberName_length {start rest : List Char} {key : String}
    (h : memberName start = .ok (some (key, rest))) : rest.length < start.length := by
  unfold memberName at h
  split at h
  · rename_i more
    cases read : readString more with
    | error e =>
      rw [read] at h
      cases h
    | ok result =>
      rw [read] at h
      simp only [Except.map, Except.ok.injEq, Option.some.injEq] at h
      subst h
      have := readString_length read
      simp only [List.length_cons]
      omega
  all_goals cases h

theorem nextKey_length {first : Bool} {input rest : List Char} {key : String}
    (h : nextKey first input = .ok (some (key, rest))) : rest.length < input.length := by
  unfold nextKey at h
  have spaced := skipSpace_length input
  split at h
  · cases h
  · cases h
  · rename_i c tail _ eq
    rw [eq] at spaced
    simp only [List.length_cons] at spaced
    split at h
    · have := memberName_length h
      simp only [List.length_cons] at this
      omega
    · split at h
      · have := memberName_length h
        have := skipSpace_length tail
        omega
      · cases h

-- The equations named at the recursive calls are used by the termination proof only.
set_option linter.unusedVariables false in
/-- Reads the members of an object up to its closing brace, which stays unread. -/
def readMembers (first : Bool) (fields : Fields) (input : List Char) :
    Except Fault (Fields × List Char) :=
  match key : nextKey first input with
  | .error e => .error e
  | .ok none => .ok (fields, input)
  | .ok (some (name, afterKey)) =>
    if fields.isSet name then .error ⟨.duplicateField name, duplicateAt afterKey, 0⟩
    else
      match colon : objectColon afterKey with
      | .error e => .error e
      | .ok afterColon =>
        if name == "input" then
          match value : readPath afterColon with
          | .ok (v, rest) => readMembers false { fields with input := some v } rest
          | .error e => .error e
        else if name == "output" then
          match value : readPath afterColon with
          | .ok (v, rest) => readMembers false { fields with output := some v } rest
          | .error e => .error e
        else if name == "keep_pragma_only" then
          match value : readBool afterColon with
          | .ok (v, rest) => readMembers false { fields with keepPragmaOnly := some v } rest
          | .error e => .error e
        else
          match value : skipValue afterColon with
          | .ok rest => readMembers false fields rest
          | .error e => .error e
termination_by input.length
decreasing_by
  all_goals
    have := nextKey_length key
    have := objectColon_length colon
  · have := readPath_length value
    omega
  · have := readPath_length value
    omega
  · have := readBool_length value
    omega
  · have := skipValue_length value
    omega

/-- Reads the end of an object whose members have all been read. -/
def endObject (input : List Char) : Except Fault (List Char) :=
  match skipSpace input with
  | '}' :: rest => .ok rest
  | ',' :: rest => .error ⟨.trailingComma, ',' :: rest, 1⟩
  | [] => .error ⟨.eofInObject, [], 0⟩
  | other => .error ⟨.trailingCharacters, other, 1⟩

/-- Accepts the end of the text after the value: white space only. -/
def endOfText {α : Type} (value : α) (input : List Char) : Except Fault α :=
  match skipSpace input with
  | [] => .ok value
  | other => .error ⟨.trailingCharacters, other, 1⟩

/-- Reads settings from JSON text. -/
def readJson (text : List Char) : Except Fault Settings :=
  match skipSpace text with
  | [] => .error ⟨.eofInValue, [], 0⟩
  | '[' :: rest => do
    let (settings, afterElements) ← readElements rest
    let afterArray ← endArray afterElements
    endOfText settings afterArray
  | '{' :: rest => do
    let (fields, afterMembers) ← readMembers true {} rest
    let afterObject ← endObject afterMembers
    endOfText fields.settings afterObject
  | other => .error (mismatchAt other .settings)

end Decomment.Config

namespace Decomment

/-- Reads settings from JSON text, with the position of an error. -/
def Settings.ofJson (text : String) : Except Json.ParseError Settings :=
  (Config.readJson text.toList).mapError (·.locate text.toList)

end Decomment
