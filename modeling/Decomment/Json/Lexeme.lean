import Decomment.Json.Error
import Decomment.Number.Scale

/-!
Lexemes of JSON text.

Each reader takes the input not yet read and returns what it read with the rest, or a `Fault`.

* White space is space, tab, line feed and carriage return.
* A string runs to the next unescaped `"`. Its escapes are `\"`, `\\`, `\/`, `\b`, `\f`, `\n`,
  `\r`, `\t` and `\u` with four hex digits; a `\u` escape of a leading surrogate must be followed
  by one of a trailing surrogate. A raw character below U+0020 is an error. `stringChars` decodes
  a string; `skipString` only checks its escapes, without the surrogate rule, and reports a raw
  control character where it stands rather than after it.
* A number is `-`, an integer part without leading zeros, an optional fraction and an optional
  exponent. `readNumber` keeps an integer below `2 ^ 64` whole; other numbers become binary64
  values through `Number.scaleDecimal`, digits beyond what fits in 64 bits being dropped.

The lemmas at the end say that each reader that succeeds consumes input.
-/

namespace Decomment.Json

open Decomment.Config

/-- JSON white space. -/
def isSpace (c : Char) : Bool :=
  c == ' ' || c == '\n' || c == '\t' || c == '\r'

/-- The input after its leading white space. -/
def skipSpace (input : List Char) : List Char :=
  input.dropWhile isSpace

/-- A decimal digit. -/
def isDigit (c : Char) : Bool :=
  '0' ≤ c && c ≤ '9'

/-- The value of a decimal digit. -/
def digitValue (c : Char) : Nat :=
  c.toNat - '0'.toNat

/-- The value of a hex digit. -/
def hexValue? (c : Char) : Option Nat :=
  if '0' ≤ c && c ≤ '9' then some (c.toNat - '0'.toNat)
  else if 'a' ≤ c && c ≤ 'f' then some (c.toNat - 'a'.toNat + 10)
  else if 'A' ≤ c && c ≤ 'F' then some (c.toNat - 'A'.toNat + 10)
  else none

/-- The number of UTF-8 bytes of a text. -/
def byteCount (text : List Char) : Nat :=
  (text.map Char.utf8Size).foldr (· + ·) 0

/-- Reads the rest of a keyword whose first letter was read. -/
def matchWord : List Char → List Char → Except Fault (List Char)
  | [], input => .ok input
  | _ :: _, [] => .error ⟨.eofInValue, [], 0⟩
  | w :: ws, c :: rest => if c == w then matchWord ws rest else .error ⟨.expectedIdent, c :: rest, 1⟩

/-- Reads the four hex digits of a `\u` escape. Four bytes are read before they are checked; with
fewer than four bytes left the string ends too early. -/
def hex4 (input : List Char) : Except Fault (Nat × List Char) :=
  match input with
  | a :: b :: c :: d :: rest =>
    match hexValue? a, hexValue? b, hexValue? c, hexValue? d with
    | some w, some x, some y, some z => .ok (((w * 16 + x) * 16 + y) * 16 + z, rest)
    | _, _, _, _ => .error ⟨.invalidEscape, input, 4⟩
  | _ =>
    if 4 ≤ byteCount input then .error ⟨.invalidEscape, input, 4⟩
    else .error ⟨.eofInString, [], 0⟩

/-- A leading surrogate. -/
def isLeading (n : Nat) : Bool :=
  0xD800 ≤ n && n ≤ 0xDBFF

/-- A trailing surrogate. -/
def isTrailing (n : Nat) : Bool :=
  0xDC00 ≤ n && n ≤ 0xDFFF

/-- Reads a `\u` escape after its `u`, and a second one after a leading surrogate. -/
def unicodeEscape (input : List Char) : Except Fault (Char × List Char) :=
  match hex4 input with
  | .error e => .error e
  | .ok (n, rest) =>
    if isTrailing n then .error ⟨.loneLeadingSurrogate, rest, 0⟩
    else if !isLeading n then .ok (Char.ofNat n, rest)
    else match rest with
      | '\\' :: 'u' :: more =>
        match hex4 more with
        | .error e => .error e
        | .ok (low, after) =>
          if isTrailing low then
            .ok (Char.ofNat (0x10000 + (n - 0xD800) * 0x400 + (low - 0xDC00)), after)
          else .error ⟨.loneLeadingSurrogate, after, 0⟩
      | ['\\'] => .error ⟨.eofInString, [], 0⟩
      | '\\' :: other => .error ⟨.unexpectedEndOfHexEscape, other, 1⟩
      | [] => .error ⟨.eofInString, [], 0⟩
      | other => .error ⟨.unexpectedEndOfHexEscape, other, 1⟩

/-- The character a one-letter escape stands for. -/
def shortEscape? : Char → Option Char
  | '"' => some '"'
  | '\\' => some '\\'
  | '/' => some '/'
  | 'b' => some '\x08'
  | 'f' => some '\x0c'
  | 'n' => some '\n'
  | 'r' => some '\r'
  | 't' => some '\t'
  | _ => none

/-- Reads an escape after its backslash and decodes it. -/
def escape (input : List Char) : Except Fault (Char × List Char) :=
  match input with
  | [] => .error ⟨.eofInString, [], 0⟩
  | 'u' :: rest => unicodeEscape rest
  | c :: rest =>
    match shortEscape? c with
    | some d => .ok (d, rest)
    | none => .error ⟨.invalidEscape, c :: rest, 1⟩

theorem hex4_length {input rest : List Char} {n : Nat} (h : hex4 input = .ok (n, rest)) :
    rest.length + 4 = input.length := by
  unfold hex4 at h
  split at h
  · split at h
    · simp only [Except.ok.injEq, Prod.mk.injEq] at h
      obtain ⟨-, rfl⟩ := h
      simp
    · cases h
  · split at h <;> cases h

theorem unicodeEscape_length {input rest : List Char} {c : Char}
    (h : unicodeEscape input = .ok (c, rest)) : rest.length < input.length := by
  unfold unicodeEscape at h
  split at h
  · cases h
  · rename_i n mid first
    have firstLength := hex4_length first
    split at h
    · cases h
    · split at h
      · simp only [Except.ok.injEq, Prod.mk.injEq] at h
        obtain ⟨-, rfl⟩ := h
        omega
      · split at h
        · rename_i more
          split at h
          · cases h
          · rename_i low after second
            have secondLength := hex4_length second
            split at h
            · simp only [Except.ok.injEq, Prod.mk.injEq] at h
              obtain ⟨-, rfl⟩ := h
              simp only [List.length_cons] at firstLength
              omega
            · cases h
        all_goals cases h

theorem escape_length {input rest : List Char} {c : Char} (h : escape input = .ok (c, rest)) :
    rest.length < input.length := by
  unfold escape at h
  split at h
  · cases h
  · have shorter := unicodeEscape_length h
    simp only [List.length_cons]
    omega
  · split at h
    · cases h
      simp
    · cases h

-- `next` is used by the termination proof only.
set_option linter.unusedVariables false in
/-- Reads the characters of a string after its opening quote, decoding escapes; `acc` holds the
characters read so far, last first. -/
def stringChars (acc : List Char) (input : List Char) : Except Fault (String × List Char) :=
  match input with
  | [] => .error ⟨.eofInString, [], 0⟩
  | '"' :: rest => .ok (String.ofList acc.reverse, rest)
  | '\\' :: rest =>
    match next : escape rest with
    | .ok (c, after) => stringChars (c :: acc) after
    | .error e => .error e
  | c :: rest =>
    if c.toNat < 0x20 then .error ⟨.controlCharacter, c :: rest, 1⟩
    else stringChars (c :: acc) rest
termination_by input.length
decreasing_by
  all_goals simp only [List.length_cons]
  · have := escape_length next
    omega
  · omega

/-- Reads a string after its opening quote. -/
def readString (input : List Char) : Except Fault (String × List Char) :=
  stringChars [] input

/-- Checks an escape after its backslash without decoding it. -/
def skipEscape (input : List Char) : Except Fault (List Char) :=
  match input with
  | [] => .error ⟨.eofInString, [], 0⟩
  | c :: rest =>
    if c == '"' || c == '\\' || c == '/' || c == 'b' || c == 'f' || c == 'n' || c == 'r' ||
        c == 't' then .ok rest
    else if c == 'u' then (hex4 rest).map (·.2)
    else .error ⟨.invalidEscape, c :: rest, 1⟩

theorem skipEscape_length {input rest : List Char} (h : skipEscape input = .ok rest) :
    rest.length < input.length := by
  unfold skipEscape at h
  split at h
  · cases h
  · rename_i c tail
    split at h
    · cases h
      simp
    · split at h
      · cases found : hex4 tail with
        | error e =>
          rw [found] at h
          cases h
        | ok result =>
          rw [found] at h
          cases h
          have := hex4_length found
          simp only [List.length_cons]
          omega
      · cases h

-- `next` is used by the termination proof only.
set_option linter.unusedVariables false in
/-- Reads a string after its opening quote, checking escapes only. -/
def skipString (input : List Char) : Except Fault (List Char) :=
  match input with
  | [] => .error ⟨.eofInString, [], 0⟩
  | '"' :: rest => .ok rest
  | '\\' :: rest =>
    match next : skipEscape rest with
    | .ok after => skipString after
    | .error e => .error e
  | c :: rest =>
    if c.toNat < 0x20 then .error ⟨.controlCharacter, c :: rest, 0⟩
    else skipString rest
termination_by input.length
decreasing_by
  all_goals simp only [List.length_cons]
  · have := skipEscape_length next
    omega
  · omega

theorem skipString_length {input rest : List Char} (h : skipString input = .ok rest) :
    rest.length < input.length := by
  induction input using skipString.induct with
  | case1 => simp [skipString] at h
  | case2 tail =>
    simp only [skipString, Except.ok.injEq] at h
    subst h
    simp
  | case3 tail after next ih =>
    rw [skipString, next] at h
    have shorter := skipEscape_length next
    have := ih h
    simp only [List.length_cons]
    omega
  | case4 tail e next =>
    rw [skipString, next] at h
    cases h
  | case5 c tail notQuote notEscape control =>
    rw [skipString] at h
    · simp only [control, ↓reduceIte] at h
      cases h
    · exact notQuote
    · exact notEscape
  | case6 c tail notQuote notEscape control ih =>
    rw [skipString] at h
    · simp only [control, ↓reduceIte] at h
      have := ih h
      simp only [List.length_cons]
      omega
    · exact notQuote
    · exact notEscape

/-- A number as the reader sees it: an integer that fits in 64 bits, or a binary64 value. -/
inductive Number where
  | unsigned (n : Nat)
  | signed (i : Int)
  | float (bits : UInt64)
deriving DecidableEq, Repr

/-- The mismatch a number makes. -/
def Number.unexpected : Number → Unexpected
  | .unsigned n => .unsigned n
  | .signed i => .signed i
  | .float bits => .float bits

/-- The largest 64-bit unsigned integer. -/
def u64Max : Nat := Nat.pow 2 64 - 1

/-- The largest 32-bit signed integer, the bound of an exponent. -/
def i32Max : Nat := Nat.pow 2 31 - 1

/-- An exponent kept within 32-bit signed range. -/
def clampExponent (e : Int) : Int :=
  max (-(Int.pow 2 31)) (min (Int.pow 2 31 - 1) e)

/-- The binary64 value of `significand · 10 ^ exponent`; out of range is an error where the
number ends. -/
def fromParts (positive : Bool) (significand : Nat) (exponent : Int) (rest : List Char) :
    Except Fault (Number × List Char) :=
  match Number.scaleDecimal positive significand exponent with
  | some f => .ok (.float f.toBits, rest)
  | none => .error ⟨.numberOutOfRange, rest, 0⟩

/-- An exponent too large for 32 bits: infinite unless the significand is zero or the exponent
negative, in which case the value is a zero of the number's sign. -/
def exponentOverflow (positive zero positiveExp : Bool) (rest : List Char) :
    Except Fault (Number × List Char) :=
  if !zero && positiveExp then .error ⟨.numberOutOfRange, rest, 0⟩
  else .ok (.float (if positive then (0.0 : Float) else -0.0).toBits, rest.dropWhile isDigit)

/-- Reads the digits of an exponent; `acc` is the exponent so far. -/
def exponentDigits (positive : Bool) (significand : Nat) (positiveExp : Bool) (start : Int)
    (acc : Nat) : List Char → Except Fault (Number × List Char)
  | d :: rest =>
    if isDigit d then
      let next := acc * 10 + digitValue d
      if next > i32Max then exponentOverflow positive (significand == 0) positiveExp rest
      else exponentDigits positive significand positiveExp start next rest
    else
      fromParts positive significand
        (clampExponent (if positiveExp then start + acc else start - acc)) (d :: rest)
  | [] =>
    fromParts positive significand (clampExponent (if positiveExp then start + acc else start - acc)) []

/-- Reads an exponent after its `e`. -/
def exponentPart (positive : Bool) (significand : Nat) (start : Int) (input : List Char) :
    Except Fault (Number × List Char) :=
  let (positiveExp, digits) : Bool × List Char :=
    match input with
    | '+' :: rest => (true, rest)
    | '-' :: rest => (false, rest)
    | _ => (true, input)
  match digits with
  | [] => .error ⟨.eofInValue, [], 0⟩
  | d :: rest =>
    if isDigit d then exponentDigits positive significand positiveExp start (digitValue d) rest
    else .error ⟨.invalidNumber, d :: rest, 1⟩

/-- Reads what may follow the digits of a number: an exponent, or nothing. -/
def afterDigits (positive : Bool) (significand : Nat) (exponent : Int) (input : List Char) :
    Except Fault (Number × List Char) :=
  match input with
  | 'e' :: rest => exponentPart positive significand exponent rest
  | 'E' :: rest => exponentPart positive significand exponent rest
  | _ => fromParts positive significand exponent input

/-- Reads fraction digits after the significand has run out of 64 bits: they are dropped. -/
def fractionOverflow (positive : Bool) (significand : Nat) (exponent : Int) (input : List Char) :
    Except Fault (Number × List Char) :=
  afterDigits positive significand exponent (input.dropWhile isDigit)

/-- Reads the digits after a decimal point; `count` digits have been read so far, and `before`
is the exponent the integer part left. -/
def fractionDigits (positive : Bool) (significand count : Nat) (before : Int) :
    List Char → Except Fault (Number × List Char)
  | d :: rest =>
    if isDigit d then
      let next := significand * 10 + digitValue d
      if next > u64Max then fractionOverflow positive significand (before - count) (d :: rest)
      else fractionDigits positive next (count + 1) before rest
    else if count == 0 then .error ⟨.invalidNumber, d :: rest, 1⟩
    else afterDigits positive significand (before - count) (d :: rest)
  | [] =>
    if count == 0 then .error ⟨.eofInValue, [], 0⟩
    else afterDigits positive significand (before - count) []

/-- Reads integer digits after the significand has run out of 64 bits: each one raises the
exponent. -/
def longInteger (positive : Bool) (significand count : Nat) :
    List Char → Except Fault (Number × List Char)
  | d :: rest =>
    if isDigit d then longInteger positive significand (count + 1) rest
    else if d == '.' then fractionDigits positive significand 0 count rest
    else afterDigits positive significand count (d :: rest)
  | [] => fromParts positive significand count []

/-- An integer that fits in 64 bits: negative ones from `-1` to `-2 ^ 63` are signed integers,
and other negative ones, `-0` among them, binary64 values. -/
def integerValue (positive : Bool) (significand : Nat) : Number :=
  if positive then .unsigned significand
  else if 1 ≤ significand && significand ≤ Nat.pow 2 63 then .signed (-(significand : Int))
  else .float (-(significand.toUInt64.toFloat)).toBits

/-- Reads what follows the integer part of a number. -/
def afterInteger (positive : Bool) (significand : Nat) (input : List Char) :
    Except Fault (Number × List Char) :=
  match input with
  | '.' :: rest => fractionDigits positive significand 0 0 rest
  | 'e' :: rest => exponentPart positive significand 0 rest
  | 'E' :: rest => exponentPart positive significand 0 rest
  | _ => .ok (integerValue positive significand, input)

/-- Reads integer digits; `significand` is the value so far. -/
def integerDigits (positive : Bool) (significand : Nat) :
    List Char → Except Fault (Number × List Char)
  | d :: rest =>
    if isDigit d then
      let next := significand * 10 + digitValue d
      if next > u64Max then longInteger positive significand 0 (d :: rest)
      else integerDigits positive next rest
    else afterInteger positive significand (d :: rest)
  | [] => afterInteger positive significand []

/-- Reads a number after its sign. -/
def readNumber (positive : Bool) (input : List Char) : Except Fault (Number × List Char) :=
  match input with
  | [] => .error ⟨.eofInValue, [], 0⟩
  | '0' :: rest =>
    match rest with
    | d :: _ => if isDigit d then .error ⟨.invalidNumber, rest, 1⟩ else afterInteger positive 0 rest
    | [] => afterInteger positive 0 []
  | c :: rest =>
    if isDigit c then integerDigits positive (digitValue c) rest
    else .error ⟨.invalidNumber, c :: rest, 1⟩

/-- Checks the digits of an exponent. -/
def skipExponentDigits (input : List Char) : Except Fault (List Char) :=
  match input with
  | d :: rest => if isDigit d then .ok (rest.dropWhile isDigit) else .error ⟨.invalidNumber, d :: rest, 1⟩
  | [] => .error ⟨.invalidNumber, [], 0⟩

/-- Checks an exponent after its `e`. -/
def skipExponent (input : List Char) : Except Fault (List Char) :=
  match input with
  | '+' :: rest => skipExponentDigits rest
  | '-' :: rest => skipExponentDigits rest
  | _ => skipExponentDigits input

/-- Checks what may follow the digits of a fraction: an exponent, or nothing. -/
def skipAfterFraction (input : List Char) : Except Fault (List Char) :=
  match input with
  | 'e' :: rest => skipExponent rest
  | 'E' :: rest => skipExponent rest
  | _ => .ok input

/-- Checks what may follow the integer part of a number: a fraction, an exponent, or nothing. -/
def skipAfterInteger (input : List Char) : Except Fault (List Char) :=
  match input with
  | '.' :: rest =>
    match rest with
    | d :: more =>
      if isDigit d then skipAfterFraction (more.dropWhile isDigit)
      else .error ⟨.invalidNumber, rest, 1⟩
    | [] => .error ⟨.invalidNumber, [], 0⟩
  | 'e' :: rest => skipExponent rest
  | 'E' :: rest => skipExponent rest
  | _ => .ok input

/-- Checks a number after its sign. -/
def skipNumber (input : List Char) : Except Fault (List Char) :=
  match input with
  | '0' :: rest =>
    match rest with
    | d :: _ => if isDigit d then .error ⟨.invalidNumber, rest, 1⟩ else skipAfterInteger rest
    | [] => .ok []
  | c :: rest =>
    if isDigit c then skipAfterInteger (rest.dropWhile isDigit)
    else .error ⟨.invalidNumber, c :: rest, 1⟩
  | [] => .error ⟨.invalidNumber, [], 0⟩

theorem dropWhile_length_le (p : Char → Bool) (l : List Char) :
    (l.dropWhile p).length ≤ l.length :=
  (List.dropWhile_suffix p).length_le

theorem skipSpace_length (input : List Char) : (skipSpace input).length ≤ input.length :=
  dropWhile_length_le _ _

theorem skipSpace_cons_of_isSpace {c : Char} (space : isSpace c = true) (rest : List Char) :
    skipSpace (c :: rest) = skipSpace rest :=
  List.dropWhile_cons_of_pos space

theorem skipSpace_cons_of_not_space {c : Char} (notSpace : isSpace c = false) (rest : List Char)
    : skipSpace (c :: rest) = c :: rest := by
  simp [skipSpace, notSpace]

/-- White space skipped once is all skipped. -/
theorem skipSpace_of_eq_cons {input rest : List Char} {c : Char}
    (spaced : skipSpace input = c :: rest) : skipSpace (c :: rest) = c :: rest := by
  have first := List.head?_dropWhile_not isSpace input
  rw [← skipSpace, spaced, List.head?_cons] at first
  simp [skipSpace, first]

theorem skipExponentDigits_length {input rest : List Char}
    (h : skipExponentDigits input = .ok rest) : rest.length < input.length := by
  unfold skipExponentDigits at h
  split at h
  · rename_i d more
    split at h
    · cases h
      have := dropWhile_length_le isDigit more
      simp only [List.length_cons]
      omega
    · cases h
  · cases h

theorem skipExponent_length {input rest : List Char} (h : skipExponent input = .ok rest) :
    rest.length < input.length := by
  unfold skipExponent at h
  split at h
  · have := skipExponentDigits_length h
    simp only [List.length_cons]
    omega
  · have := skipExponentDigits_length h
    simp only [List.length_cons]
    omega
  · exact skipExponentDigits_length h

theorem skipAfterFraction_length {input rest : List Char}
    (h : skipAfterFraction input = .ok rest) : rest.length ≤ input.length := by
  unfold skipAfterFraction at h
  split at h
  · have := skipExponent_length h
    simp only [List.length_cons]
    omega
  · have := skipExponent_length h
    simp only [List.length_cons]
    omega
  · cases h
    exact Nat.le_refl _

theorem skipAfterInteger_length {input rest : List Char}
    (h : skipAfterInteger input = .ok rest) : rest.length ≤ input.length := by
  unfold skipAfterInteger at h
  split at h
  · rename_i tail
    split at h
    · rename_i d more
      split at h
      · have := skipAfterFraction_length h
        have := dropWhile_length_le isDigit more
        simp only [List.length_cons]
        omega
      · cases h
    · cases h
  · have := skipExponent_length h
    simp only [List.length_cons]
    omega
  · have := skipExponent_length h
    simp only [List.length_cons]
    omega
  · cases h
    exact Nat.le_refl _

theorem skipNumber_length {input rest : List Char} (h : skipNumber input = .ok rest) :
    rest.length < input.length := by
  unfold skipNumber at h
  split at h
  · rename_i tail
    split at h
    · split at h
      · cases h
      · have := skipAfterInteger_length h
        simp only [List.length_cons] at *
        omega
    · cases h
      simp
  · rename_i c tail _
    split at h
    · have := skipAfterInteger_length h
      have := dropWhile_length_le isDigit tail
      simp only [List.length_cons]
      omega
    · cases h
  · cases h

theorem matchWord_length {word input rest : List Char} (h : matchWord word input = .ok rest) :
    rest.length + word.length = input.length := by
  induction word generalizing input with
  | nil =>
    cases h
    simp
  | cons w ws ih =>
    cases input with
    | nil => cases h
    | cons c tail =>
      simp only [matchWord] at h
      split at h
      · have := ih h
        simp only [List.length_cons]
        omega
      · cases h

theorem fromParts_length {positive : Bool} {significand : Nat} {exponent : Int}
    {input rest : List Char} {n : Number}
    (h : fromParts positive significand exponent input = .ok (n, rest)) :
    rest.length ≤ input.length := by
  unfold fromParts at h
  split at h
  · cases h
    exact Nat.le_refl _
  · cases h

theorem exponentOverflow_length {positive zero positiveExp : Bool} {input rest : List Char}
    {n : Number} (h : exponentOverflow positive zero positiveExp input = .ok (n, rest)) :
    rest.length ≤ input.length := by
  unfold exponentOverflow at h
  split at h
  · cases h
  · cases h
    exact dropWhile_length_le _ _

theorem exponentDigits_length {positive : Bool} {significand : Nat} {positiveExp : Bool}
    {start : Int} {acc : Nat} {input rest : List Char} {n : Number}
    (h : exponentDigits positive significand positiveExp start acc input = .ok (n, rest)) :
    rest.length ≤ input.length := by
  induction input generalizing acc with
  | nil => exact fromParts_length h
  | cons d tail ih =>
    simp only [exponentDigits] at h
    split at h
    · split at h
      · have := exponentOverflow_length h
        simp only [List.length_cons]
        omega
      · have := ih h
        simp only [List.length_cons]
        omega
    · exact fromParts_length h

theorem exponentPart_length {positive : Bool} {significand : Nat} {start : Int}
    {input rest : List Char} {n : Number}
    (h : exponentPart positive significand start input = .ok (n, rest)) :
    rest.length < input.length := by
  unfold exponentPart at h
  split at h
  rename_i positiveExp digits signed
  -- the sign, if any, is read first
  have signRead : digits.length ≤ input.length := by
    split at signed <;> cases signed <;> simp
  split at h
  · cases h
  · rename_i d tail
    split at h
    · have := exponentDigits_length h
      simp only [List.length_cons] at signRead
      omega
    · cases h

theorem afterDigits_length {positive : Bool} {significand : Nat} {exponent : Int}
    {input rest : List Char} {n : Number}
    (h : afterDigits positive significand exponent input = .ok (n, rest)) :
    rest.length ≤ input.length := by
  unfold afterDigits at h
  split at h
  · have := exponentPart_length h
    simp only [List.length_cons]
    omega
  · have := exponentPart_length h
    simp only [List.length_cons]
    omega
  · exact fromParts_length h

theorem fractionDigits_length {positive : Bool} {significand count : Nat} {before : Int}
    {input rest : List Char} {n : Number}
    (h : fractionDigits positive significand count before input = .ok (n, rest)) :
    rest.length ≤ input.length := by
  induction input generalizing significand count with
  | nil =>
    simp only [fractionDigits] at h
    split at h
    · cases h
    · exact afterDigits_length h
  | cons d tail ih =>
    simp only [fractionDigits] at h
    split at h
    · split at h
      · have := afterDigits_length h
        have := dropWhile_length_le isDigit (d :: tail)
        omega
      · have := ih h
        simp only [List.length_cons]
        omega
    · split at h
      · cases h
      · exact afterDigits_length h

theorem longInteger_length {positive : Bool} {significand count : Nat} {input rest : List Char}
    {n : Number} (h : longInteger positive significand count input = .ok (n, rest)) :
    rest.length ≤ input.length := by
  induction input generalizing count with
  | nil => exact fromParts_length h
  | cons d tail ih =>
    simp only [longInteger] at h
    split at h
    · have := ih h
      simp only [List.length_cons]
      omega
    · split at h
      · have := fractionDigits_length h
        simp only [List.length_cons]
        omega
      · exact afterDigits_length h

theorem afterInteger_length {positive : Bool} {significand : Nat} {input rest : List Char}
    {n : Number} (h : afterInteger positive significand input = .ok (n, rest)) :
    rest.length ≤ input.length := by
  unfold afterInteger at h
  split at h
  · have := fractionDigits_length h
    simp only [List.length_cons]
    omega
  · have := exponentPart_length h
    simp only [List.length_cons]
    omega
  · have := exponentPart_length h
    simp only [List.length_cons]
    omega
  · cases h
    exact Nat.le_refl _

theorem integerDigits_length {positive : Bool} {significand : Nat} {input rest : List Char}
    {n : Number} (h : integerDigits positive significand input = .ok (n, rest)) :
    rest.length ≤ input.length := by
  induction input generalizing significand with
  | nil => exact afterInteger_length h
  | cons d tail ih =>
    simp only [integerDigits] at h
    split at h
    · split at h
      · exact longInteger_length h
      · have := ih h
        simp only [List.length_cons]
        omega
    · exact afterInteger_length h

theorem readNumber_length {positive : Bool} {input rest : List Char} {n : Number}
    (h : readNumber positive input = .ok (n, rest)) : rest.length < input.length := by
  unfold readNumber at h
  split at h
  · cases h
  · rename_i tail
    split at h
    · split at h
      · cases h
      · have := afterInteger_length h
        simp only [List.length_cons] at *
        omega
    · have := afterInteger_length h
      simp only [List.length_cons, List.length_nil] at *
      omega
  · split at h
    · have := integerDigits_length h
      simp only [List.length_cons]
      omega
    · cases h

end Decomment.Json
