import Decomment.Proofs.Skipping
import Decomment.Proofs.SettingsText
import Decomment.Proofs.ReportJson
import Decomment.Proofs.TomlBrace

/-! Inline settings given as a JSON object. A text that is one object by the grammar of JSON, as
the skipper checks it, is read by the settings reader member by member, in the order of the
text: a member named `input` or `output` must be a string, one named `keep_pragma_only` a
boolean, each of them at most once, and a member of any other name is passed over whatever its
value, also one that a strict reader refuses (a string with a lone surrogate escape, a number
out of range). So the settings are the defaults with each field that is given overridden
(`Fields.ofMembers`), the same in every order of the members; where the members do not fit, the
text is refused as JSON, and TOML refuses it too. A field's value counts as a string or a
boolean where a strict reader reads it as one (`strictValue?`), so a path with a lone surrogate
escape does not fit. A member name must be a text of Unicode scalar values: a lone surrogate
escape is refused, also in a name that is no field.

An object text (`ObjectText`) is one value to the skipper (`skipValue_of_objectText`). The text of
its members (`MembersText`) takes each name as the reader reads names and each value as the
skipper passes over it; a field's value is read by the settings reader's path or switch
reader exactly where a strict reader reads a string or a boolean, and refused elsewhere; and the
settings reader takes the members one by one (`Fields.take?`), which gives the fields of the
members when they fit.
-/

namespace Decomment.Json

open Decomment.Config

/-- The string a value is, if it is one. -/
def Value.asString? : Value → Option String
  | .string s => some s
  | _ => none

/-- The boolean a value is, if it is one. -/
def Value.asBool? : Value → Option Bool
  | .bool b => some b
  | _ => none

/-- The value a strict reader reads at the front of the input, if it reads one. It reads none
where a string holds a lone surrogate escape or a number is out of range, which the skipper
passes over. -/
def strictValue? (input : List Char) : Option Value :=
  (readValue input).toOption.map Prod.fst

/-- The string a value read at a place is, if one was read and it is a string. -/
def stringOf? (v : Option Value) : Option String :=
  v.bind Value.asString?

/-- The boolean a value read at a place is, if one was read and it is a boolean. -/
def boolOf? (v : Option Value) : Option Bool :=
  v.bind Value.asBool?

variable {input rest r : List Char} {v w : Value}

theorem readValue_length (read : readValue input = .ok (v, rest)) :
    rest.length ≤ input.length :=
  skipValue_length (skipValue_of_readValue read)

/-- Where the skipper passes over a value, a strict reader reads it, to the same place, or
refuses it. -/
theorem strictValue?_of_skipValue (skipped : skipValue input = .ok rest) :
    (∃ v, strictValue? input = some v ∧ readValue input = .ok (v, rest)) ∨
      (strictValue? input = none ∧ ∃ e, readValue input = .error e) := by
  cases read : readValue input with
  | error e => exact .inr ⟨by simp [strictValue?, read, Except.toOption], e, rfl⟩
  | ok result =>
    obtain ⟨v, mid⟩ := result
    have same := skipValue_of_readValue read
    rw [skipped] at same
    obtain rfl := Except.ok.inj same
    exact .inl ⟨v, by simp [strictValue?, read, Except.toOption], rfl⟩

-----------------------------------------------------------------------------------------
-- Scalars
-----------------------------------------------------------------------------------------

theorem readScalar_quote (rest : List Char) :
    readScalar ('"' :: rest) = (readString rest).map fun (s, after) => (.string s, after) := rfl

theorem readScalar_true (rest : List Char) :
    readScalar ('t' :: rest) =
      (matchWord ['r', 'u', 'e'] rest).map fun after => (.bool true, after) :=
  rfl

theorem readScalar_false (rest : List Char) :
    readScalar ('f' :: rest) =
      (matchWord ['a', 'l', 's', 'e'] rest).map fun after => (.bool false, after) :=
  rfl

/-- A scalar is a string only where it opens with a quote, and a boolean only where it opens
with `t` or `f`. -/
theorem readScalar_kind {c : Char} {after : List Char}
    (read : readScalar (c :: rest) = .ok (v, after)) :
    (c ≠ '"' → v.asString? = none) ∧ (c ≠ 't' → c ≠ 'f' → v.asBool? = none) := by
  unfold readScalar at read
  split at read <;> obtain ⟨found, -, same⟩ := map_eq_ok read <;> cases same
  -- one case for each opening: `n`, `t`, `f`, `-`, a quote, and anything else as a number
  next => exact ⟨fun _ => rfl, fun _ _ => rfl⟩
  next _ _ heq =>
    obtain ⟨rfl, -⟩ := List.cons.inj heq
    exact ⟨fun _ => rfl, fun notTrue => absurd rfl notTrue⟩
  next _ _ heq =>
    obtain ⟨rfl, -⟩ := List.cons.inj heq
    exact ⟨fun _ => rfl, fun _ notFalse => absurd rfl notFalse⟩
  next => exact ⟨fun _ => rfl, fun _ _ => rfl⟩
  next _ _ heq =>
    obtain ⟨rfl, -⟩ := List.cons.inj heq
    exact ⟨fun notQuote => absurd rfl notQuote, fun _ _ => rfl⟩
  next => exact ⟨fun _ => rfl, fun _ _ => rfl⟩

-----------------------------------------------------------------------------------------
-- Arrays and objects
-----------------------------------------------------------------------------------------

/-- What is read after the first item of an array at the top is that array: the reader takes
item after item until the closing bracket. -/
theorem readMachine_read_array_top {items : List Value} {v w : Value} {input r : List Char}
    (h : readMachine [.array items] (.read v) input = .ok (w, r)) : ∃ all, w = .array all := by
  rcases readMachine_read_array_ok h with ⟨rest, spaced, next⟩ | ⟨rest, -, closed⟩
  · obtain ⟨item, mid, read, after⟩ := readMachine_value_framed next
    have shorter : mid.length < input.length := by
      have := readValue_length read
      have := skipSpace_cons spaced
      omega
    exact readMachine_read_array_top after
  · exact ⟨_, (readMachine_read_top_ok closed).1⟩
termination_by input.length

/-- An array opened at the top is read as an array. -/
theorem readMachine_openedArray_top (h : readMachine [] .openedArray input = .ok (w, r)) :
    ∃ items, w = .array items := by
  rcases readMachine_openedArray_ok h with ⟨rest, -, closed⟩ | ⟨c, rest, -, first⟩
  · exact ⟨[], (readMachine_read_top_ok closed).1⟩
  · obtain ⟨item, mid, -, after⟩ := readMachine_value_framed first
    exact readMachine_read_array_top after

/-- What is read after a member of an object at the top is that object: the reader takes member
after member until the closing brace. -/
theorem readMachine_read_object_top {members : List (String × Value)} {name : String}
    {v w : Value} {input r : List Char}
    (h : readMachine [.object members name] (.read v) input = .ok (w, r)) :
    ∃ all, w = .object all := by
  rcases readMachine_read_object_ok h with
    ⟨rest, following, after, spaced, head, next⟩ | ⟨rest, -, closed⟩
  · obtain ⟨item, mid, read, more⟩ := readMachine_value_framed next
    have shorter : mid.length < input.length := by
      have := readValue_length read
      have := memberHead_length head
      have := skipSpace_length rest
      have := skipSpace_cons spaced
      omega
    exact readMachine_read_object_top more
  · exact ⟨_, (readMachine_read_top_ok closed).1⟩
termination_by input.length

/-- An object opened at the top is read as an object. -/
theorem readMachine_openedObject_top (h : readMachine [] .openedObject input = .ok (w, r)) :
    ∃ members, w = .object members := by
  rcases readMachine_openedObject_ok h with
    ⟨rest, -, closed⟩ | ⟨c, rest, name, after, -, -, -, first⟩
  · exact ⟨[], (readMachine_read_top_ok closed).1⟩
  · obtain ⟨v, mid, -, more⟩ := readMachine_value_framed first
    exact readMachine_read_object_top more

end Decomment.Json

namespace Decomment.Config

open Decomment.Json

-----------------------------------------------------------------------------------------
-- Member names
-----------------------------------------------------------------------------------------

section Names

variable {input rest after : List Char} {name : String}

/-- A member name and its colon, read as the reader reads them, read as the settings reader
reads them. -/
theorem memberName_of_memberHead {start : List Char} (head : memberHead start = .ok (name, after)) :
    ∃ afterName, memberName start = .ok (some (name, afterName)) ∧
      objectColon afterName = .ok after := by
  unfold memberHead at head
  split at head
  next more =>
    split at head
    next afterName found =>
      obtain ⟨after', colon, same⟩ := map_eq_ok head
      cases same
      refine ⟨afterName, ?_, colon⟩
      simp [memberName, found, Except.map]
    next => cases head
  all_goals cases head

theorem nextKey_of_closed {first : Bool} (spaced : skipSpace input = '}' :: rest) :
    nextKey first input = .ok none := by
  rw [nextKey, spaced]
  rfl

theorem nextKey_true_of_cons {c : Char} (spaced : skipSpace input = c :: rest)
    (notClosed : c ≠ '}') :
    nextKey true input = memberName (c :: rest) := by
  rw [nextKey, spaced]
  split
  next heq => cases heq
  next heq => exact absurd (List.cons.inj heq).1 notClosed
  next heq =>
    obtain ⟨rfl, rfl⟩ := List.cons.inj heq
    rfl

theorem nextKey_false_of_comma (spaced : skipSpace input = ',' :: rest) :
    nextKey false input = memberName (skipSpace rest) := by
  rw [nextKey, spaced]
  rfl

/-- A member name read as the reader reads names opens with a quote. -/
theorem memberHead_quote {start : List Char} (head : memberHead start = .ok (name, after)) :
    ∃ more, start = '"' :: more := by
  unfold memberHead at head
  split at head
  next more => exact ⟨more, rfl⟩
  all_goals cases head

/-- The first member's name, read as the reader reads it, is read by the settings reader. -/
theorem nextKey_true_of_memberHead (head : memberHead (skipSpace input) = .ok (name, after)) :
    ∃ afterName, nextKey true input = .ok (some (name, afterName)) ∧
      objectColon afterName = .ok after := by
  obtain ⟨more, spaced⟩ := memberHead_quote head
  rw [nextKey_true_of_cons spaced (by decide), ← spaced]
  exact memberName_of_memberHead head

/-- A later member's name, read after a comma as the reader reads it, is read by the settings
reader. -/
theorem nextKey_false_of_memberHead (spaced : skipSpace input = ',' :: rest)
    (head : memberHead (skipSpace rest) = .ok (name, after)) :
    ∃ afterName, nextKey false input = .ok (some (name, afterName)) ∧
      objectColon afterName = .ok after := by
  rw [nextKey_false_of_comma spaced]
  exact memberName_of_memberHead head

end Names

-----------------------------------------------------------------------------------------
-- Object texts
-----------------------------------------------------------------------------------------

/-- The members of an object as its text spells them from `input` on, by the grammar the skipper
checks, up to the closing brace, after which `rest` is left. Each member is a name, read with its
colon as the reader reads names, and a value the skipper passes over, given as a strict reader
reads it (`none` where it refuses it). The first member follows the opening brace, each later one
a comma. -/
inductive MembersText :
    Bool → List Char → List (String × Option Value) → List Char → Prop where
  /-- The closing brace. -/
  | close {first : Bool} {input rest : List Char} :
      skipSpace input = '}' :: rest → MembersText first input [] rest
  /-- The first member, then the members after it. -/
  | first {input after mid rest : List Char} {name : String} {v : Option Value}
      {later : List (String × Option Value)} :
      memberHead (skipSpace input) = .ok (name, after) → skipValue after = .ok mid →
      strictValue? after = v → MembersText false mid later rest →
      MembersText true input ((name, v) :: later) rest
  /-- A member after a comma, then the members after it. -/
  | next {input more after mid rest : List Char} {name : String} {v : Option Value}
      {later : List (String × Option Value)} :
      skipSpace input = ',' :: more → memberHead (skipSpace more) = .ok (name, after) →
      skipValue after = .ok mid → strictValue? after = v → MembersText false mid later rest →
      MembersText false input ((name, v) :: later) rest

/-- A text that is one JSON object by the grammar the skipper checks, with white space around it,
and whose member names are texts of Unicode scalar values; `members` are its members in the order
of the text. -/
def ObjectText (text : List Char) (members : List (String × Option Value)) : Prop :=
  ∃ rest r, skipSpace text = '{' :: rest ∧ MembersText true rest members r ∧ skipSpace r = []

section Skipper

variable {stack : List Frame} {input more after mid rest : List Char} {name : String}

theorem skipMachine_opened_of_memberHead
    (head : memberHead (skipSpace input) = .ok (name, after)) :
    skipMachine stack (.opened .object) input = skipMachine (.object :: stack) .value after := by
  obtain ⟨more, spaced⟩ := memberHead_quote head
  rw [spaced, ← skipSpace_of_eq_cons spaced] at head
  rw [skipMachine_opened_eq, spaced]
  simp only [Frame.closer, skipKey_of_memberHead head]
  rfl

theorem skipMachine_after_of_memberHead (spaced : skipSpace input = ',' :: more)
    (head : memberHead (skipSpace more) = .ok (name, after)) :
    skipMachine (.object :: stack) .after input = skipMachine (.object :: stack) .value after := by
  rw [skipMachine_after_eq, spaced]
  simp only [skipKey_of_memberHead head]
  rfl

theorem skipMachine_after_of_closed (spaced : skipSpace input = '}' :: rest) :
    skipMachine [.object] .after input = .ok rest := by
  rw [skipMachine_after_eq, spaced]
  show skipMachine [] .after rest = _
  rw [skipMachine]

/-- A value inside an object is skipped as at the top, and the skipper goes on after it. -/
theorem skipMachine_value_of_skipValue (skipped : skipValue after = .ok mid) :
    skipMachine [.object] .value after = skipMachine [.object] .after mid := by
  rw [← List.nil_append [Frame.object], skipMachine_append, ← skipValue, skipped]
  rfl

/-- After a member, the skipper passes over the members the text spells and the closing brace.
By recursion on the text, member by member. -/
theorem skipMachine_of_membersText {input rest : List Char}
    {members : List (String × Option Value)} :
    MembersText false input members rest → skipMachine [.object] .after input = .ok rest
  | .close spaced => skipMachine_after_of_closed spaced
  | .next spaced head skipped _ later => by
    rw [skipMachine_after_of_memberHead spaced head, skipMachine_value_of_skipValue skipped]
    exact skipMachine_of_membersText later

end Skipper

/-- An object text is one value to the skipper, with only white space after it. -/
theorem skipValue_of_objectText {text : List Char} {members : List (String × Option Value)}
    (spelled : ObjectText text members) : ∃ r, skipValue text = .ok r ∧ skipSpace r = [] := by
  obtain ⟨rest, r, spaced, membersText, trailing⟩ := spelled
  refine ⟨r, ?_, trailing⟩
  rw [skipValue, skipMachine_value_eq, spaced]
  show skipMachine [] (.opened .object) rest = _
  cases membersText with
  | close closed =>
    rw [skipMachine_opened_eq, closed]
    show skipMachine [] .after r = _
    rw [skipMachine]
  | first head skipped _ later =>
    rw [skipMachine_opened_of_memberHead head, skipMachine_value_of_skipValue skipped]
    exact skipMachine_of_membersText later

-----------------------------------------------------------------------------------------
-- Paths and switches
-----------------------------------------------------------------------------------------

/-- A result that is the value expected, with `rest` left; or an error where no value is
expected. -/
def ReadsAs {α : Type} (result : Except Fault (α × List Char)) : Option α → List Char → Prop
  | some a, rest => result = .ok (a, rest)
  | none, _ => ∃ e, result = .error e

section Fields

variable {input rest : List Char} {c : Char}

theorem readPath_of_quote (spaced : skipSpace input = '"' :: rest) :
    readPath input = readString rest := by
  rw [readPath, spaced]
  rfl

theorem readPath_of_cons (spaced : skipSpace input = c :: rest) (notQuote : c ≠ '"') :
    ∃ e, readPath input = .error e := by
  rw [readPath, spaced]
  split
  next heq => cases heq
  next heq => exact absurd (List.cons.inj heq).1 notQuote
  next => exact ⟨_, rfl⟩

theorem readBool_of_true (spaced : skipSpace input = 't' :: rest) :
    readBool input = (matchWord ['r', 'u', 'e'] rest).map fun after => (true, after) := by
  rw [readBool, spaced]
  rfl

theorem readBool_of_false (spaced : skipSpace input = 'f' :: rest) :
    readBool input = (matchWord ['a', 'l', 's', 'e'] rest).map fun after => (false, after) := by
  rw [readBool, spaced]
  rfl

theorem readBool_of_cons (spaced : skipSpace input = c :: rest) (notTrue : c ≠ 't')
    (notFalse : c ≠ 'f') : ∃ e, readBool input = .error e := by
  rw [readBool, spaced]
  split
  next heq => cases heq
  next heq => exact absurd (List.cons.inj heq).1 notTrue
  next heq => exact absurd (List.cons.inj heq).1 notFalse
  next => exact ⟨_, rfl⟩

variable {v : Value}

/-- A path is read where the reader reads a string, to the same place, and refused where it
reads any other value. -/
theorem readPath_of_readValue (read : readValue input = .ok (v, rest)) :
    ReadsAs (readPath input) v.asString? rest := by
  rcases readMachine_value_ok read with ⟨more, spaced, opened⟩ | ⟨more, spaced, opened⟩ |
      ⟨c, more, item, after, spaced, -, -, scalar, top⟩
  · obtain ⟨items, rfl⟩ := readMachine_openedArray_top opened
    exact readPath_of_cons spaced (by decide)
  · obtain ⟨members, rfl⟩ := readMachine_openedObject_top opened
    exact readPath_of_cons spaced (by decide)
  · obtain ⟨rfl, rfl⟩ := readMachine_read_top_ok top
    by_cases quoted : c = '"'
    · subst quoted
      rw [readScalar_quote] at scalar
      obtain ⟨⟨s, after'⟩, found, same⟩ := map_eq_ok scalar
      cases same
      show readPath input = .ok (s, _)
      rw [readPath_of_quote spaced, found]
    · rw [(readScalar_kind scalar).1 quoted]
      exact readPath_of_cons spaced quoted

/-- A switch is read where the reader reads a boolean, to the same place, and refused where it
reads any other value. -/
theorem readBool_of_readValue (read : readValue input = .ok (v, rest)) :
    ReadsAs (readBool input) v.asBool? rest := by
  rcases readMachine_value_ok read with ⟨more, spaced, opened⟩ | ⟨more, spaced, opened⟩ |
      ⟨c, more, item, after, spaced, -, -, scalar, top⟩
  · obtain ⟨items, rfl⟩ := readMachine_openedArray_top opened
    exact readBool_of_cons spaced (by decide) (by decide)
  · obtain ⟨members, rfl⟩ := readMachine_openedObject_top opened
    exact readBool_of_cons spaced (by decide) (by decide)
  · obtain ⟨rfl, rfl⟩ := readMachine_read_top_ok top
    by_cases isTrue : c = 't'
    · subst isTrue
      rw [readScalar_true] at scalar
      obtain ⟨after', found, same⟩ := map_eq_ok scalar
      cases same
      show readBool input = .ok (true, _)
      rw [readBool_of_true spaced, found]
      rfl
    by_cases isFalse : c = 'f'
    · subst isFalse
      rw [readScalar_false] at scalar
      obtain ⟨after', found, same⟩ := map_eq_ok scalar
      cases same
      show readBool input = .ok (false, _)
      rw [readBool_of_false spaced, found]
      rfl
    rw [(readScalar_kind scalar).2 isTrue isFalse]
    exact readBool_of_cons spaced isTrue isFalse

variable {e : Fault}

/-- A path is refused where a strict reader refuses the value: a string the path reader reads,
the strict reader reads too. -/
theorem readPath_of_refused (refused : readValue input = .error e) :
    ∃ e', readPath input = .error e' := by
  cases spaced : skipSpace input with
  | nil => exact ⟨_, by rw [readPath, spaced]⟩
  | cons c more =>
    by_cases quoted : c = '"'
    · subst quoted
      rw [readPath_of_quote spaced]
      cases found : readString more with
      | error e' => exact ⟨e', rfl⟩
      | ok result =>
        have read : readValue input = .ok (.string result.1, result.2) := by
          rw [readValue, readMachine_value_scalar [] spaced (by decide)
            (by rw [readScalar_quote, found]; rfl), readMachine_read_top]
        rw [read] at refused
        cases refused
    · exact readPath_of_cons spaced quoted

/-- A switch is refused where a strict reader refuses the value: a boolean the switch reader
reads, the strict reader reads too. -/
theorem readBool_of_refused (refused : readValue input = .error e) :
    ∃ e', readBool input = .error e' := by
  cases spaced : skipSpace input with
  | nil => exact ⟨_, by rw [readBool, spaced]⟩
  | cons c more =>
    by_cases isTrue : c = 't'
    · subst isTrue
      rw [readBool_of_true spaced]
      cases found : matchWord ['r', 'u', 'e'] more with
      | error e' => exact ⟨e', rfl⟩
      | ok after =>
        have read : readValue input = .ok (.bool true, after) := by
          rw [readValue, readMachine_value_scalar [] spaced (by decide)
            (by rw [readScalar_true, found]; rfl), readMachine_read_top]
        rw [read] at refused
        cases refused
    by_cases isFalse : c = 'f'
    · subst isFalse
      rw [readBool_of_false spaced]
      cases found : matchWord ['a', 'l', 's', 'e'] more with
      | error e' => exact ⟨e', rfl⟩
      | ok after =>
        have read : readValue input = .ok (.bool false, after) := by
          rw [readValue, readMachine_value_scalar [] spaced (by decide)
            (by rw [readScalar_false, found]; rfl), readMachine_read_top]
        rw [read] at refused
        cases refused
    exact readBool_of_cons spaced isTrue isFalse

/-- Where the skipper passes over a value, a path is read exactly where a strict reader reads a
string, to the same place. -/
theorem readPath_of_skipValue (skipped : skipValue input = .ok rest) :
    ReadsAs (readPath input) (stringOf? (strictValue? input)) rest := by
  rcases strictValue?_of_skipValue skipped with ⟨v, found, read⟩ | ⟨missing, e, refused⟩
  · rw [found]
    exact readPath_of_readValue read
  · rw [missing]
    exact readPath_of_refused refused

/-- Where the skipper passes over a value, a switch is read exactly where a strict reader reads a
boolean, to the same place. -/
theorem readBool_of_skipValue (skipped : skipValue input = .ok rest) :
    ReadsAs (readBool input) (boolOf? (strictValue? input)) rest := by
  rcases strictValue?_of_skipValue skipped with ⟨v, found, read⟩ | ⟨missing, e, refused⟩
  · rw [found]
    exact readBool_of_readValue read
  · rw [missing]
    exact readBool_of_refused refused

end Fields

-----------------------------------------------------------------------------------------
-- The settings reader, member by member
-----------------------------------------------------------------------------------------

/-- Takes a member into the fields read so far, as the settings reader takes it: a field named
a second time, or given a value of another kind, is refused; a name that is no field is passed
over. -/
def Fields.take? (fields : Fields) : String × Option Value → Option Fields
  | (name, v) =>
    if fields.isSet name then none
    else if name == "input" then (stringOf? v).map fun s => { fields with input := some s }
    else if name == "output" then (stringOf? v).map fun s => { fields with output := some s }
    else if name == "keep_pragma_only" then
      (boolOf? v).map fun b => { fields with keepPragmaOnly := some b }
    else some fields

/-- Reading the members from `input` takes them into `fields` one by one and stops before the
closing brace, after which `rest` is left; or it fails, where taking them fails. -/
def MembersRead (first : Bool) (fields : Fields) (members : List (String × Option Value))
    (input rest : List Char) : Prop :=
  match members.foldlM Fields.take? fields with
  | some taken =>
    ∃ close, readMembers first fields input = .ok (taken, close) ∧ endObject close = .ok rest
  | none => ∃ e, readMembers first fields input = .error e

/-- The settings reader after a member: it goes on from the fields that taking the member
gives, or it fails where taking the member fails. -/
def Continues (result : Except Fault (Fields × List Char)) (taken : Option Fields)
    (rest : List Char) : Prop :=
  match taken with
  | some fields => result = readMembers false fields rest
  | none => ∃ e, result = .error e

section Members

variable {first : Bool} {fields : Fields} {input afterName after mid rest : List Char}
  {name : String}

/-- A field read by a reader that agrees with the value read: the settings reader goes on from
the field set to the value, or fails where the value has another kind. -/
theorem continues_of_readsAs {α : Type} {read : Except Fault (α × List Char)}
    {expected : Option α} {set : α → Fields} {result : Except Fault (Fields × List Char)}
    (agrees : ReadsAs read expected mid)
    (found : ∀ x, read = .ok (x, mid) → result = readMembers false (set x) mid)
    (failed : ∀ e, read = .error e → result = .error e) :
    Continues result (expected.map set) mid := by
  cases expected with
  | none =>
    obtain ⟨e, refused⟩ := agrees
    exact ⟨e, failed e refused⟩
  | some x => exact found x agrees

/-- One member: the settings reader goes on from the fields that taking the member gives, or
fails where taking it fails. -/
theorem readMembers_step (fields : Fields)
    (key : nextKey first input = .ok (some (name, afterName)))
    (colon : objectColon afterName = .ok after) (skipped : skipValue after = .ok mid) :
    Continues (readMembers first fields input) (fields.take? (name, strictValue? after)) mid := by
  rw [readMembers_eq, key]
  simp only [Fields.take?]
  by_cases twice : fields.isSet name = true
  · simp only [twice, if_true]
    exact ⟨_, rfl⟩
  simp only [twice, colon, Bool.false_eq_true, if_false]
  -- each field is read by its own reader, which agrees with the value read
  by_cases isInput : (name == "input") = true
  · simp only [isInput, if_true]
    exact continues_of_readsAs (readPath_of_skipValue skipped) (fun _ found => by simp only [found])
      (fun _ failed => by simp only [failed])
  by_cases isOutput : (name == "output") = true
  · simp only [isInput, isOutput, Bool.false_eq_true, if_true, if_false]
    exact continues_of_readsAs (readPath_of_skipValue skipped) (fun _ found => by simp only [found])
      (fun _ failed => by simp only [failed])
  by_cases isSwitch : (name == "keep_pragma_only") = true
  · simp only [isInput, isOutput, isSwitch, Bool.false_eq_true, if_true, if_false]
    exact continues_of_readsAs (readBool_of_skipValue skipped) (fun _ found => by simp only [found])
      (fun _ failed => by simp only [failed])
  simp only [isInput, isOutput, isSwitch, Bool.false_eq_true, if_false, skipped]
  rfl

theorem readMembers_of_closed (spaced : skipSpace input = '}' :: rest) :
    readMembers first fields input = .ok (fields, input) := by
  rw [readMembers_eq, nextKey_of_closed spaced]

theorem endObject_of_closed (spaced : skipSpace input = '}' :: rest) :
    endObject input = .ok rest := by
  rw [endObject, spaced]
  rfl

/-- A member taken, then the members after it: the settings reader goes on from the fields the
member gives, or fails where taking it fails. -/
theorem membersRead_cons {member : String × Option Value}
    {later : List (String × Option Value)}
    (step : Continues (readMembers first fields input) (fields.take? member) mid)
    (rest_read : ∀ fields, MembersRead false fields later mid rest) :
    MembersRead first fields (member :: later) input rest := by
  unfold MembersRead
  rw [List.foldlM_cons]
  cases taken : fields.take? member with
  | none =>
    rw [taken] at step
    exact step
  | some next =>
    rw [taken] at step
    rw [show readMembers first fields input = readMembers false next mid from step]
    exact rest_read next

/-- The settings reader reads the members an object's text spells one by one, taking each
into the fields. By induction on the text, member by member. -/
theorem membersRead_of_membersText {members : List (String × Option Value)}
    (text : MembersText first input members rest) (fields : Fields) :
    MembersRead first fields members input rest := by
  induction text generalizing fields with
  | close spaced => exact ⟨_, readMembers_of_closed spaced, endObject_of_closed spaced⟩
  | first head skipped read _ ih =>
    obtain ⟨afterName, key, colon⟩ := nextKey_true_of_memberHead head
    subst read
    exact membersRead_cons (readMembers_step fields key colon skipped) ih
  | next spaced head skipped read _ ih =>
    obtain ⟨afterName, key, colon⟩ := nextKey_false_of_memberHead spaced head
    subst read
    exact membersRead_cons (readMembers_step fields key colon skipped) ih

end Members

-----------------------------------------------------------------------------------------
-- An object text
-----------------------------------------------------------------------------------------

theorem readJson_of_object {text rest : List Char} (spaced : skipSpace text = '{' :: rest) :
    readJson text = (readMembers true {} rest).bind fun (fields, afterMembers) =>
      (endObject afterMembers).bind (endOfText fields.settings) := by
  rw [readJson, spaced]
  rfl

/-- An object text is read by the settings reader member by member: as the settings of the
fields that taking its members gives, or as an error where taking them fails. -/
theorem readJson_of_objectText {text : List Char} {members : List (String × Option Value)}
    (spelled : ObjectText text members) :
    match members.foldlM Fields.take? {} with
    | some taken => readJson text = .ok taken.settings
    | none => ∃ e, readJson text = .error e := by
  obtain ⟨rest, r, spaced, membersText, trailing⟩ := spelled
  have fields := membersRead_of_membersText membersText {}
  unfold MembersRead at fields
  rw [readJson_of_object spaced]
  split at fields
  next taken folded =>
    obtain ⟨close, readAll, closed⟩ := fields
    rw [readAll]
    show (endObject close).bind (endOfText taken.settings) = _
    rw [closed]
    show endOfText taken.settings r = _
    rw [endOfText, trailing]
  next folded =>
    obtain ⟨e, failed⟩ := fields
    rw [failed]
    exact ⟨e, rfl⟩

-----------------------------------------------------------------------------------------
-- The settings an object's members give
-----------------------------------------------------------------------------------------

/-- The values of the members with a name, in order. -/
def valuesOf (name : String) (members : List (String × Option Value)) : List (Option Value) :=
  members.filterMap fun m => if m.1 = name then some m.2 else none

/-- The values given to a field fit it: at most one, of the field's kind. -/
def fitsField {α : Type} (kind : Option Value → Option α) : List (Option Value) → Bool
  | [] => true
  | [v] => (kind v).isSome
  | _ :: _ :: _ => false

/-- The members of an object fit the settings: each field is named at most once, the paths
with a string and the switch with a boolean, as a strict reader reads them; other members may
have any values, also ones a strict reader refuses. -/
def Fitting (members : List (String × Option Value)) : Prop :=
  fitsField stringOf? (valuesOf "input" members) ∧
    fitsField stringOf? (valuesOf "output" members) ∧
    fitsField boolOf? (valuesOf "keep_pragma_only" members)

instance : DecidablePred Fitting := fun _ => inferInstanceAs (Decidable (_ ∧ _ ∧ _))

/-- The fields an object's members give: each field the value of its member, where there is
one. -/
def Fields.ofMembers (members : List (String × Option Value)) : Fields where
  input := (valuesOf "input" members).head?.bind stringOf?
  output := (valuesOf "output" members).head?.bind stringOf?
  keepPragmaOnly := (valuesOf "keep_pragma_only" members).head?.bind boolOf?

section Spec

variable {α : Type} {kind : Option Value → Option α} {values : List (Option Value)}

@[simp] theorem valuesOf_append_singleton (name n : String) (v : Option Value)
    (members : List (String × Option Value)) :
    valuesOf name (members ++ [(n, v)]) =
      valuesOf name members ++ if n = name then [v] else [] := by
  by_cases same : n = name <;> simp [valuesOf, same]

/-- A fitting field takes one more value only if it had none, and the value is of its kind. -/
theorem fitsField_append_singleton (fits : fitsField kind values = true) (v : Option Value) :
    fitsField kind (values ++ [v]) = (values.isEmpty && (kind v).isSome) := by
  match values, fits with
  | [], _ => rfl
  | [_], _ => rfl

/-- Values that fit a field fit it still without the last ones. -/
theorem fitsField_of_append {more : List (Option Value)}
    (fits : fitsField kind (values ++ more) = true) : fitsField kind values = true := by
  match values, more, fits with
  | [], _, _ => rfl
  | [_], [], fits => exact fits

/-- Values that fit a field are the same in every order. -/
theorem eq_of_perm_of_fitsField {values' : List (Option Value)}
    (fits : fitsField kind values = true) (perm : values'.Perm values) : values' = values := by
  match values, fits with
  | [], _ => exact perm.eq_nil
  | [_], _ => exact List.perm_singleton.mp perm

/-- A fitting field is set exactly when it was given a value. -/
theorem isSome_head?_bind (fits : fitsField kind values = true) :
    (values.head?.bind kind).isSome = !values.isEmpty := by
  match values, fits with
  | [], _ => rfl
  | [_], fits => exact fits

/-- Taking one more member into the fields that fitting members give: the fields of all of them,
or nothing if they no longer fit. -/
theorem take?_ofMembers {members : List (String × Option Value)} (fit : Fitting members)
    (n : String) (v : Option Value) :
    (Fields.ofMembers members).take? (n, v) =
      if Fitting (members ++ [(n, v)]) then some (Fields.ofMembers (members ++ [(n, v)]))
      else none := by
  obtain ⟨fitInput, fitOutput, fitSwitch⟩ := fit
  by_cases isInput : n = "input"
  · subst isInput
    simp [Fields.take?, Fields.isSet, Fields.ofMembers, Fitting, fitOutput, fitSwitch,
      fitsField_append_singleton fitInput, isSome_head?_bind fitInput]
    by_cases empty : valuesOf "input" members = []
    · cases kind : stringOf? v <;> simp [empty, kind]
    · simp [empty]
  by_cases isOutput : n = "output"
  · subst isOutput
    simp [Fields.take?, Fields.isSet, Fields.ofMembers, Fitting, fitInput, fitSwitch,
      fitsField_append_singleton fitOutput, isSome_head?_bind fitOutput]
    by_cases empty : valuesOf "output" members = []
    · cases kind : stringOf? v <;> simp [empty, kind]
    · simp [empty]
  by_cases isSwitch : n = "keep_pragma_only"
  · subst isSwitch
    simp [Fields.take?, Fields.isSet, Fields.ofMembers, Fitting, fitInput, fitOutput,
      fitsField_append_singleton fitSwitch, isSome_head?_bind fitSwitch]
    by_cases empty : valuesOf "keep_pragma_only" members = []
    · cases kind : boolOf? v <;> simp [empty, kind]
    · simp [empty]
  simp [Fields.take?, Fields.isSet, Fields.ofMembers, Fitting, fitInput, fitOutput, fitSwitch,
    isInput, isOutput, isSwitch]

variable {members members' : List (String × Option Value)}

theorem fitting_of_append {more : List (String × Option Value)} (fit : Fitting (members ++ more)) :
    Fitting members := by
  obtain ⟨fitInput, fitOutput, fitSwitch⟩ := fit
  simp only [valuesOf, List.filterMap_append] at fitInput fitOutput fitSwitch
  exact ⟨fitsField_of_append fitInput, fitsField_of_append fitOutput,
    fitsField_of_append fitSwitch⟩

/-- Taking the members one by one gives the fields they give when they fit, and fails when they
do not. By induction on the members, the last one taken last. -/
theorem foldlM_take? (members : List (String × Option Value)) :
    members.foldlM Fields.take? {} =
      if Fitting members then some (Fields.ofMembers members) else none := by
  induction members using List.reverseRecOn with
  | nil => rfl
  | append_singleton members m ih =>
    obtain ⟨n, v⟩ := m
    rw [List.foldlM_append, ih]
    by_cases fit : Fitting members
    · rw [if_pos fit]
      simp [take?_ofMembers fit]
    · rw [if_neg fit, if_neg (fun fits => fit (fitting_of_append fits))]
      rfl

/-- Fitting members fit in every order, and give the same fields. -/
theorem fitting_of_perm (fit : Fitting members) (perm : members'.Perm members) :
    Fitting members' ∧ Fields.ofMembers members' = Fields.ofMembers members := by
  obtain ⟨fitInput, fitOutput, fitSwitch⟩ := fit
  have input := eq_of_perm_of_fitsField fitInput (perm.filterMap _)
  have output := eq_of_perm_of_fitsField fitOutput (perm.filterMap _)
  have switch := eq_of_perm_of_fitsField fitSwitch (perm.filterMap _)
  refine ⟨⟨?_, ?_, ?_⟩, ?_⟩
  · rw [valuesOf, input]
    exact fitInput
  · rw [valuesOf, output]
    exact fitOutput
  · rw [valuesOf, switch]
    exact fitSwitch
  · simp only [Fields.ofMembers, valuesOf, input, output, switch]

end Spec

-----------------------------------------------------------------------------------------
-- Inline settings
-----------------------------------------------------------------------------------------

section Inline

variable {features : Features} {text : String} {members : List (String × Option Value)}

/-- An object text gives the fields of its members over the defaults when they fit, and is
refused as JSON when they do not. -/
theorem ofJson_of_objectText (spelled : ObjectText text.toList members) :
    (Fitting members → Settings.ofJson text = .ok (Fields.ofMembers members).settings) ∧
      (¬ Fitting members → ∃ e, Settings.ofJson text = .error e) := by
  have reads := readJson_of_objectText spelled
  rw [foldlM_take?] at reads
  constructor
  · intro fit
    simp only [if_pos fit] at reads
    rw [Settings.ofJson, reads]
    rfl
  · intro unfit
    simp only [if_neg unfit] at reads
    obtain ⟨e, failed⟩ := reads
    exact ⟨_, by rw [Settings.ofJson, failed]; rfl⟩

/-- Inline text that neither JSON nor TOML reads is refused with the JSON error, in either
build. -/
theorem readInline_of_refused {e : Json.ParseError} (json : Settings.ofJson text = .error e)
    (toml : ∃ e', Settings.ofToml text = .error e') :
    readInline features text = .error (.jsonConfig e) := by
  obtain ⟨e', tomlFailed⟩ := toml
  simp [readInline, json, tomlFailed]

theorem readInline_of_fitting (spelled : ObjectText text.toList members)
    (fit : Fitting members) :
    readInline features text = .ok (Fields.ofMembers members).settings := by
  rw [readInline, (ofJson_of_objectText spelled).1 fit]

theorem readInline_of_not_fitting (spelled : ObjectText text.toList members)
    (unfit : ¬ Fitting members) : ∃ e, readInline features text = .error (.jsonConfig e) := by
  obtain ⟨e, failed⟩ := (ofJson_of_objectText spelled).2 unfit
  obtain ⟨rest, -, spaced, -⟩ := spelled
  exact ⟨e, readInline_of_refused failed (Settings.ofToml_of_opensBrace spaced)⟩

end Inline

/-- Inline settings given as a JSON object are read field by field over the defaults. For a
text that is one object by the grammar the skipper checks, with member names of Unicode scalar
values: when its members fit (each field named at most once, the paths with strings and the
switch with a boolean, as a strict reader reads them), each field given overrides its default
and other members are passed over, whatever their values; when they do not fit, the text is
refused as JSON, with or without the TOML reader; and fitting members give the same settings in
every order. -/
theorem inline_object_overrides_defaults (features : Features) (text : String)
    (members : List (String × Option Value)) (spelled : ObjectText text.toList members) :
    (Fitting members → readInline features text = .ok (Fields.ofMembers members).settings) ∧
      (¬ Fitting members → ∃ e, readInline features text = .error (.jsonConfig e)) ∧
      (∀ text' members', ObjectText text'.toList members' → members'.Perm members →
        Fitting members → readInline features text' = readInline features text) := by
  refine ⟨readInline_of_fitting spelled, readInline_of_not_fitting spelled, ?_⟩
  intro text' members' spelled' perm fit
  obtain ⟨fit', same⟩ := fitting_of_perm fit perm
  rw [readInline_of_fitting spelled' fit', readInline_of_fitting spelled fit, same]

/-- A string written as a JSON string is read back, and passed over by the skipper. -/
theorem readValue_quoteChars (s : String) (rest : List Char) :
    readValue (quoteChars s.toList ++ rest) = .ok (.string s, rest) := by
  rw [readValue, readMachine_value_quoted, readMachine_read_top]

/-- An object with the output and the input, then a member holding a lone surrogate escape and
one holding a number out of range. -/
def unreadableExtras : String :=
  "\x7b\"output\":\"o.sol\",\"input\":\"a.sol\",\"note\":\"\\ud800\",\"depth\":1e400\x7d"

theorem inline_object_overrides_defaults_of_unreadable_extras :
    (parse unreadableExtras).isOk = false ∧
      ObjectText unreadableExtras.toList
        [("output", some (.string "o.sol")), ("input", some (.string "a.sol")), ("note", none),
          ("depth", none)] ∧
      readInline ⟨false, false⟩ unreadableExtras =
        .ok { input := "a.sol", output := "o.sol", keepPragmaOnly := true } := by
  have text : unreadableExtras.toList =
      '{' :: (quoteChars "output".toList ++ ':' :: (quoteChars "o.sol".toList ++ ',' ::
        (quoteChars "input".toList ++ ':' :: (quoteChars "a.sol".toList ++ ',' ::
          (quoteChars "note".toList ++ ':' :: ("\"\\ud800\"".toList ++ ',' ::
            (quoteChars "depth".toList ++ ':' :: ("1e400".toList ++ ['}'])))))))) :=
    rfl
  -- the skipper passes over the two values that a strict reader refuses
  have lone : skipValue ("\"\\ud800\"".toList ++ ',' ::
      (quoteChars "depth".toList ++ ':' :: ("1e400".toList ++ ['}']))) =
      .ok (',' :: (quoteChars "depth".toList ++ ':' :: ("1e400".toList ++ ['}']))) := by
    decide +kernel
  have large : skipValue ("1e400".toList ++ ['}']) = .ok ['}'] := by decide +kernel
  have spelled : ObjectText unreadableExtras.toList
      [("output", some (.string "o.sol")), ("input", some (.string "a.sol")), ("note", none),
        ("depth", none)] := by
    rw [text]
    refine ⟨_, [], skipSpace_cons_of_not_space (by decide) _, ?_, rfl⟩
    refine .first (by rw [skipSpace_quoteChars]; exact memberHead_quoteChars _ _)
      (skipValue_of_readValue (readValue_quoteChars _ _))
      (by rw [strictValue?, readValue_quoteChars]; rfl) ?_
    refine .next (skipSpace_cons_of_not_space (by decide) _)
      (by rw [skipSpace_quoteChars]; exact memberHead_quoteChars _ _)
      (skipValue_of_readValue (readValue_quoteChars _ _))
      (by rw [strictValue?, readValue_quoteChars]; rfl) ?_
    refine .next (skipSpace_cons_of_not_space (by decide) _)
      (by rw [skipSpace_quoteChars]; exact memberHead_quoteChars _ _) lone
      (Option.isNone_iff_eq_none.mp (by decide +kernel)) ?_
    exact .next (skipSpace_cons_of_not_space (by decide) _)
      (by rw [skipSpace_quoteChars]; exact memberHead_quoteChars _ _) large
      (Option.isNone_iff_eq_none.mp (by decide +kernel)) (.close rfl)
  exact ⟨by decide +kernel, spelled,
    (inline_object_overrides_defaults ⟨false, false⟩ _ _ spelled).1 (by decide)⟩

/-- An object whose one member name is a lone surrogate escape. -/
def loneSurrogateName : String :=
  "\x7b\"\\ud800\": 1\x7d"

/-- A member name with a lone surrogate escape is refused, though it names no field: the text
is an object by the grammar of JSON, which the skipper passes over whole, but the name is no
text of Unicode scalar values, so the settings reader fails on it, in either build. -/
theorem inline_object_lone_surrogate_name_refused :
    (skipValue loneSurrogateName.toList).toOption = some [] ∧
      ∀ features : Features,
        ∃ e, readInline features loneSurrogateName = .error (.jsonConfig e) := by
  refine ⟨by decide +kernel, fun features => ?_⟩
  have refused : (Settings.ofJson loneSurrogateName).isOk = false := by decide +kernel
  have spaced : skipSpace loneSurrogateName.toList = '{' :: "\"\\ud800\": 1\x7d".toList := rfl
  cases json : Settings.ofJson loneSurrogateName with
  | ok s =>
    rw [json] at refused
    cases refused
  | error e => exact ⟨e, readInline_of_refused json (Settings.ofToml_of_opensBrace spaced)⟩

end Decomment.Config
