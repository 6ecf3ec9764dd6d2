import Decomment.Toml.Token
import Decomment.Number.Nearest

/-!
TOML documents as read.

A document is read line by line into tables (`Table`): the top table, holding the pairs before the
first header, and one table per `[header]` or `[[header]]` line, in the order of the document,
each with the pairs after its header. A dotted key `a.b = v` puts `b = v` into a table `a` made for
it among the pairs (`addDotted`). Keys given twice are kept twice: whoever reads the tables decides.

Values are strings, booleans, integers (decimal, or hex, octal and binary after `0x`, `0o`, `0b`,
with `_` between digits), floats (with a fraction, an exponent, `inf` or `nan`), date-times (read
only as far as their shape), arrays and inline tables. A bare word that starts with neither a
digit nor `-` is not a value. Every value keeps the byte offset where it starts, which is where
errors about it point; a float with a fraction starts, by this reckoning, at its fraction.

The readers of nested values and of the lines carry a fuel argument: every round reads at least
one character, so a few times the number of characters left is always enough.
-/

namespace Decomment.Toml

/-- A value of a document, with the byte offset where it starts. -/
inductive Value where
  | integer (start : Nat) (i : Int)
  | float (start : Nat) (bits : UInt64)
  | boolean (start : Nat) (b : Bool)
  | string (start : Nat) (s : String)
  | datetime (start : Nat)
  | array (start : Nat) (items : List Value)
  | inlineTable (start : Nat) (pairs : List (String × Value))
  /-- The table a dotted key made; it starts where the value of the key that made it starts. -/
  | dottedTable (start : Nat) (pairs : List (String × Value))

/-- Where a value starts. -/
def Value.start : Value → Nat
  | .integer s _ | .float s _ | .boolean s _ | .string s _ | .datetime s | .array s _
  | .inlineTable s _ | .dottedTable s _ => s

/-- Puts `v` into the first pair with key `key`, keeping the order of the pairs. -/
def replacePair (key : String) (v : Value) : List (String × Value) → List (String × Value)
  | [] => []
  | (k, old) :: rest => if k == key then (k, v) :: rest else (k, old) :: replacePair key v rest

/-- Adds a value under a dotted key to the pairs of a table: the key's last name is a new pair in
the table its other names lead to, each made when missing. A name that already holds anything but
a table made by a dotted key cannot lead further. -/
def addDotted : List String → Value → List (String × Value) → Except Fault (List (String × Value))
  | [], _, pairs => .ok pairs
  | [key], v, pairs => .ok (pairs ++ [(key, v)])
  | key :: rest, v, pairs =>
    match pairs.find? (·.1 == key) with
    | some (_, .dottedTable start inner) =>
      (addDotted rest v inner).map fun inner => replacePair key (.dottedTable start inner) pairs
    | some (_, other) => .error ⟨other.start, .dottedKeyInvalidType⟩
    | none => (addDotted rest v []).map fun inner => pairs ++ [(key, .dottedTable v.start inner)]

/-- A digit in the given radix. -/
def isDigitIn (radix : Nat) (c : Char) : Bool :=
  match hexDigit? c with
  | some d => d < radix
  | none => false

/-- The length of the run of digits at the front of a bare word that stands at `offset`: an
optional sign if `allowSign`, then digits with single `_` between them, and no digit after a
leading zero unless `allowLeadingZeros`. `index` counts the characters read; `first` says that no
digit was read yet. -/
def digitRun (offset : Nat) (allowSign allowLeadingZeros : Bool) (radix : Nat) :
    Nat → Bool → Bool → Bool → List Char → Except Fault Nat
  | index, first, _, underscore, [] =>
    if first || underscore then .error ⟨offset, .numberInvalid⟩ else .ok index
  | index, first, leadingZero, underscore, c :: rest =>
    if index == 0 && (c == '+' || c == '-') && allowSign then
      digitRun offset allowSign allowLeadingZeros radix 1 first leadingZero underscore rest
    else if c == '0' && first then
      digitRun offset allowSign allowLeadingZeros radix (index + 1) false true underscore rest
    else if isDigitIn radix c then
      if !first && leadingZero && !allowLeadingZeros then .error ⟨offset + index, .numberInvalid⟩
      else digitRun offset allowSign allowLeadingZeros radix (index + 1) false leadingZero false rest
    else if c == '_' && first then .error ⟨offset + index, .numberInvalid⟩
    else if c == '_' && !underscore then
      digitRun offset allowSign allowLeadingZeros radix (index + 1) false leadingZero true rest
    else if first || underscore then .error ⟨offset, .numberInvalid⟩
    else .ok index

/-- Splits a bare word at `offset` into its run of digits (as `digitRun` reads it) and the rest. -/
def splitDigits (word : List Char) (offset : Nat) (allowSign allowLeadingZeros : Bool)
    (radix : Nat) : Except Fault (List Char × List Char) :=
  (digitRun offset allowSign allowLeadingZeros radix 0 true false false word).map fun n =>
    (word.take n, word.drop n)

/-- The value of digits in a radix, `_` skipped. -/
def digitsValue (radix : Nat) (digits : List Char) : Nat :=
  digits.foldl (fun n c => if c == '_' then n else n * radix + ((hexDigit? c).getD 0)) 0

/-- The sign and the digits of a run. -/
def splitSign : List Char → Bool × List Char
  | '-' :: rest => (true, rest)
  | '+' :: rest => (false, rest)
  | digits => (false, digits)

/-- Reads a bare word at `offset` as an integer in a radix, which must fit in 64 signed bits. -/
def readInteger (word : List Char) (offset : Nat) (radix : Nat) : Except Fault Int := do
  let (run, rest) ← splitDigits word offset (radix == 10) (radix != 10) radix
  if !rest.isEmpty then throw ⟨offset, .numberInvalid⟩
  let (negative, digits) := splitSign run
  let magnitude : Int := digitsValue radix digits
  let value := if negative then -magnitude else magnitude
  if value < -Int.pow 2 63 || value ≥ Int.pow 2 63 then throw ⟨offset, .numberInvalid⟩
  return value

/-- The signed value of exponent digits. -/
def exponentValue (digits : List Char) : Int :=
  let (negative, digits) := splitSign digits
  let magnitude : Int := digitsValue 10 digits
  if negative then -magnitude else magnitude

/-- Reads a float whose integral part is the bare word `word` at `offset`, with the fraction word
and its offset after a period, if there is one. An exponent mark ending the last word takes its
digits from the next word, after an optional `+`. The value must be finite. -/
def readFloat (word : List Char) (offset : Nat) (fraction? : Option (List Char × Nat))
    (c : Cursor) : Except Fault (UInt64 × Cursor) := do
  let (integral, suffix) ← splitDigits word offset true false 10
  let (fraction, suffix, suffixOffset) ← match fraction? with
    | none => pure ([], suffix, offset + integral.length)
    | some (after, afterOffset) =>
      if !suffix.isEmpty then throw ⟨offset, .numberInvalid⟩
      else do
        let (digits, rest) ← splitDigits after afterOffset false true 10
        pure (digits, rest, afterOffset + digits.length)
  let (exponent, c) ← match suffix with
    | [] => pure ([], c)
    | mark :: more =>
      if mark != 'e' && mark != 'E' then throw ⟨offset, .numberInvalid⟩
      else if more.isEmpty then do
        let (_, c) ← c.eat .plus
        match ← c.next with
        | some (⟨start, .keylike s⟩, c) =>
          let (digits, rest) ← splitDigits s.toList start false true 10
          if !rest.isEmpty then throw ⟨offset, .numberInvalid⟩
          pure (digits, c)
        | _ => throw ⟨offset, .numberInvalid⟩
      else do
        let (digits, rest) ← splitDigits more (suffixOffset + 1) true true 10
        if !rest.isEmpty then throw ⟨offset, .numberInvalid⟩
        pure (digits, c)
  let (negative, whole) := splitSign integral
  let fractionDigits := fraction.filter (· != '_')
  let digits := digitsValue 10 (whole ++ fractionDigits)
  let bits := Number.nearestBits negative digits (exponentValue exponent - (fractionDigits.length : Int))
  if Number.isNonFinite bits then throw ⟨offset, .numberInvalid⟩
  return (bits, c)

/-- The bits of a NaN with the given sign. -/
def nanBits (negative : Bool) : UInt64 :=
  ((if negative then Nat.pow 2 63 else 0) + 0x7FF8 * Nat.pow 2 48 : Nat).toUInt64

/-- Reads a number from the bare word `word` at `offset`; the value starts at `start`. -/
def readNumber (start offset : Nat) (word : String) (c : Cursor) :
    Except Fault (Value × Cursor) := do
  let chars := word.toList
  if word.startsWith "0x" then return (.integer start (← readInteger (chars.drop 2) (offset + 2) 16), c)
  if word.startsWith "0o" then return (.integer start (← readInteger (chars.drop 2) (offset + 2) 8), c)
  if word.startsWith "0b" then return (.integer start (← readInteger (chars.drop 2) (offset + 2) 2), c)
  if chars.contains 'e' || chars.contains 'E' then
    let (bits, c) ← readFloat chars offset none c
    return (.float start bits, c)
  let (period, c) ← c.eat .period
  if period then
    let here := c.current
    match ← c.next with
    | some (⟨afterStart, .keylike after⟩, c) =>
      let (bits, c) ← readFloat chars offset (some (after.toList, afterStart)) c
      return (.float afterStart bits, c)
    | _ => throw ⟨here, .numberInvalid⟩
  match word with
  | "inf" => return (.float start (Number.infinityBits false), c)
  | "-inf" => return (.float start (Number.infinityBits true), c)
  | "nan" => return (.float start (nanBits false), c)
  | "-nan" => return (.float start (nanBits true), c)
  | _ => return (.integer start (← readInteger chars offset 10), c)

/-- Reads a token that must be a bare word, for a date-time that starts at `start`. -/
def datePart (start : Nat) (c : Cursor) : Except Fault Cursor := do
  match ← c.next with
  | some (⟨_, .keylike _⟩, c) => return c
  | _ => throw ⟨start, .dateInvalid⟩

/-- Reads an optional `mark` and the bare word after it, for a date-time at `start`. -/
def optionalDatePart (start : Nat) (mark : Token) (c : Cursor) : Except Fault Cursor := do
  let (found, c) ← c.eat mark
  if found then datePart start c else return c

/-- The cursor after a single space and a bare word, for a time after a date; `none` if something
else follows. -/
def spacedTime? (c : Cursor) : Option Cursor :=
  match c.rest with
  | (_, ' ') :: after =>
    let look : Cursor := { c with rest := after }
    if look.peekChar?.any isBlank then none
    else match look.next with
      | .ok (some (⟨_, .keylike _⟩, after)) => some after
      | _ => none
  | _ => none

/-- Reads the rest of a date-time whose first bare word, at `start`, was read: a time after a
single space, then `:minutes:seconds`, a fraction, and an offset, each checked only for its
shape. -/
def readDatetime (start : Nat) (colonRead : Bool) (c : Cursor) : Except Fault (Value × Cursor) := do
  let c := (spacedTime? c).getD c
  let (colon, c) ← if colonRead then pure (true, c) else c.eat .colon
  if !colon then return (.datetime start, c)
  let c ← datePart start c
  let c ← c.expect .colon
  let c ← datePart start c
  let c ← optionalDatePart start .period c
  let c ← optionalDatePart start .plus c
  let c ← optionalDatePart start .colon c
  return (.datetime start, c)

/-- The text holds `part`. -/
def hasInfix (text part : String) : Bool :=
  (text.splitOn part).length > 1

/-- Reads a value that starts with the bare word `word` at `start`: a date-time if the word looks
like one, else a number. -/
def readNumberOrDate (start : Nat) (word : String) (c : Cursor) :
    Except Fault (Value × Cursor) := do
  let chars := word.toList
  let looksDated := chars.contains 'T' || chars.contains 't' ||
    (chars.length > 1 && (chars.drop 1).contains '-' && !hasInfix word "e-" &&
      !hasInfix word "E-")
  if looksDated then readDatetime start false c
  else
    let (colon, after) ← c.eat .colon
    if colon then readDatetime start true after
    else readNumber start start word c

/-- Reads a value after a `+` at `start`. -/
def readAfterPlus (start : Nat) (c : Cursor) : Except Fault (Value × Cursor) := do
  let here := c.current
  match ← c.next with
  | some (⟨offset, .keylike word⟩, c) => readNumber start offset word c
  | _ => throw ⟨here, .numberInvalid⟩

/-- Reads a dotted key: keys joined by periods, with blanks around the periods. -/
def dottedKey (c : Cursor) : Except Fault (List String × Cursor) := do
  let (first, c) ← c.tableKey
  go (c.rest.length + 1) [first] c.eatWhitespace
where
  /-- Reads further `.key` parts. -/
  go : Nat → List String → Cursor → Except Fault (List String × Cursor)
    | 0, keys, c => .ok (keys, c)
    | fuel + 1, keys, c => do
      let (period, c) ← c.eat .period
      if !period then return (keys, c)
      let (key, c) ← c.eatWhitespace.tableKey
      go fuel (keys ++ [key]) c.eatWhitespace

/-- Skips blanks, line breaks and comments between the items of an array. -/
def skipGaps : Nat → Cursor → Except Fault Cursor
  | 0, c => .ok c
  | fuel + 1, c => do
    let c := c.eatWhitespace
    let (newline, c) ← c.eat .newline
    if newline then skipGaps fuel c
    else
      let (comment, c) ← c.eatComment
      if comment then skipGaps fuel c else return c

/-- The fuel for skipping gaps from a cursor. -/
def gapFuel (c : Cursor) : Nat :=
  c.rest.length + 1

mutual

/-- Reads a value. -/
def readValue : Nat → Cursor → Except Fault (Value × Cursor)
  | 0, c => .error ⟨c.current, .unexpectedEof⟩
  | fuel + 1, c => do
    let here := c.current
    match ← c.next with
    | none => throw ⟨c.size, .unexpectedEof⟩
    | some (⟨start, .string s _⟩, c) => return (.string start s, c)
    | some (⟨start, .keylike "true"⟩, c) => return (.boolean start true, c)
    | some (⟨start, .keylike "false"⟩, c) => return (.boolean start false, c)
    | some (⟨start, .keylike word⟩, c) =>
      let numeric := match word.toList with
        | first :: _ => first == '-' || ('0' ≤ first && first ≤ '9')
        | [] => false
      if word == "inf" || word == "nan" || numeric then readNumberOrDate start word c
      else throw ⟨here, .unquotedString⟩
    | some (⟨start, .plus⟩, c) => readAfterPlus start c
    | some (⟨start, .leftBrace⟩, c) =>
      let (closed, after) ← c.eatWhitespace.eat .rightBrace
      if closed then return (.inlineTable start [], after)
      let (pairs, c) ← readPairs fuel [] c.eatWhitespace
      return (.inlineTable start pairs, c)
    | some (⟨start, .leftBracket⟩, c) =>
      let (items, c) ← readItems fuel [] c
      return (.array start items, c)
    | some (⟨_, token⟩, _) => throw ⟨here, .wanted "a value" token.describe⟩

/-- Reads the pairs of an inline table, after the opening brace or a comma, through the closing
brace. -/
def readPairs : Nat → List (String × Value) → Cursor → Except Fault (List (String × Value) × Cursor)
  | 0, _, c => .error ⟨c.current, .unexpectedEof⟩
  | fuel + 1, pairs, c => do
    let (keys, c) ← dottedKey c
    let c ← c.eatWhitespace.expect .equals
    let (v, c) ← readValue fuel c.eatWhitespace
    let pairs ← addDotted keys v pairs
    let (closed, after) ← c.eatWhitespace.eat .rightBrace
    if closed then return (pairs, after)
    let c ← c.eatWhitespace.expect .comma
    readPairs fuel pairs c.eatWhitespace

/-- Reads the items of an array, after the opening bracket or a comma, through the closing
bracket; `items` holds those read so far in reverse order. -/
def readItems : Nat → List Value → Cursor → Except Fault (List Value × Cursor)
  | 0, _, c => .error ⟨c.current, .unexpectedEof⟩
  | fuel + 1, items, c => do
    let c ← skipGaps (gapFuel c) c
    let (closed, after) ← c.eat .rightBracket
    if closed then return (items.reverse, after)
    let (v, c) ← readValue fuel c
    let c ← skipGaps (gapFuel c) c
    let (comma, c) ← c.eat .comma
    if comma then readItems fuel (v :: items) c
    else
      let c ← skipGaps (gapFuel c) c
      let c ← c.expect .rightBracket
      return ((v :: items).reverse, c)

end

/-- The fuel for reading values from a cursor. -/
def valueFuel (c : Cursor) : Nat :=
  3 * (c.rest.length + 2)

/-- A table of a document: where its header starts (the top table starts at 0), the keys of its
header, its pairs, and whether it is an element of an array of tables. The pairs are `none` for a
top table with no pairs. -/
structure Table where
  start : Nat
  header : List String
  values : Option (List (String × Value))
  array : Bool

/-- A line of a document that holds something. -/
inductive Line where
  /-- A table header at `start`, with its keys. -/
  | header (start : Nat) (array : Bool) (keys : List String)
  /-- A key and its value. -/
  | pair (keys : List String) (value : Value)

/-- Reads the keys of a table header after its opening bracket or brackets, and the closing ones;
only a comment may follow them on the line. -/
def headerKeys (array : Bool) (c : Cursor) : Except Fault (List String) := do
  let (first, c) ← c.eatWhitespace.tableKey
  go (c.rest.length + 1) [first] c
where
  /-- Reads further `.key` parts and the end of the header. -/
  go : Nat → List String → Cursor → Except Fault (List String)
    | 0, keys, _ => .ok keys
    | fuel + 1, keys, c => do
      let (period, c) ← c.eatWhitespace.eat .period
      if period then
        let (key, c) ← c.eatWhitespace.tableKey
        go fuel (keys ++ [key]) c
      else
        let c ← c.eatWhitespace.expect .rightBracket
        let c ← if array then c.expect .rightBracket else pure c
        let (comment, c) ← c.eatWhitespace.eatComment
        if !comment then
          let _ ← c.eatNewlineOrEof
        return keys

/-- Skips blanks, comments and line breaks before a line. -/
def skipEmptyLines : Nat → Cursor → Except Fault Cursor
  | 0, c => .ok c
  | fuel + 1, c => do
    let c := c.eatWhitespace
    let (comment, c) ← c.eatComment
    if comment then skipEmptyLines fuel c
    else
      let (newline, c) ← c.eat .newline
      if newline then skipEmptyLines fuel c else return c

/-- Reads the next line that holds something; `none` at the end of the document. A header's keys
are read on a copy of the cursor, and the line is then skipped through its line break. -/
def readLine (c : Cursor) : Except Fault (Option (Line × Cursor)) := do
  let c ← skipEmptyLines (c.rest.length + 1) c
  match ← c.next with
  | none => return none
  | some (⟨start, .leftBracket⟩, afterBracket) =>
    let (array, inside) ← afterBracket.eat .leftBracket
    let keys ← headerKeys array inside
    return some (.header start array keys, inside.skipToNewline)
  | some _ =>
    let (keys, c) ← dottedKey c
    let c ← c.eatWhitespace.expect .equals
    let (v, c) ← readValue (valueFuel c) c.eatWhitespace
    let (comment, c) ← c.eatWhitespace.eatComment
    let c ← if comment then pure c else c.eatNewlineOrEof
    return some (.pair keys v, c)

/-- A table holds something worth keeping: a header or pairs. -/
def Table.kept (t : Table) : Bool :=
  !t.header.isEmpty || t.values.isSome

/-- Reads the lines of a document into tables; `done` holds the finished tables in reverse order
and `current` the table being filled. -/
def readTables : Nat → List Table → Table → Cursor → Except Fault (List Table)
  | 0, done, current, _ => .ok (if current.kept then current :: done else done).reverse
  | fuel + 1, done, current, c => do
    match ← readLine c with
    | none => return (if current.kept then current :: done else done).reverse
    | some (.header start array keys, c) =>
      let done := if current.kept then current :: done else done
      readTables fuel done ⟨start, keys, some [], array⟩ c
    | some (.pair keys v, c) =>
      let values ← addDotted keys v (current.values.getD [])
      readTables fuel done { current with values := some values } c

/-- The tables of a document. -/
def Table.read (text : String) : Except Fault (List Table) :=
  let c := Cursor.ofString text
  readTables (c.rest.length + 1) [] ⟨0, [], none, false⟩ c

end Decomment.Toml
