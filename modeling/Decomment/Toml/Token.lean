import Decomment.Toml.Error

/-!
Tokens of TOML.

The reader works on the characters of the input paired with their byte offsets (`Stream`). A
carriage return right before a line feed is read with it as one line feed at the carriage
return's offset, and a byte order mark at the very start is skipped. A `Cursor` is the part of the
stream not yet read, with the byte length of the whole input, where the end of the input stands.

`Cursor.next` reads one token: a line feed, a run of spaces and tabs, a comment, one of the marks
`= . , : + { } [ ]`, a bare word of ASCII letters, digits, `-` and `_`, or a string. Strings come
in four forms: basic (`"…"`, with escapes), literal (`'…'`), and the multi-line form of each, with
tripled quotes. In a multi-line string a line feed right after the opening quotes is dropped, and
in a basic one a backslash at the end of a line drops the line break and the blanks after it.

The loops that read strings carry a fuel argument: each round reads at least one character, so
one more than the number of characters left is always enough.
-/

namespace Decomment.Toml

/-- Characters of the input with their byte offsets. -/
abbrev Stream := List (Nat × Char)

/-- The characters of a text from byte `offset` on, a carriage return and line feed read as one
line feed. -/
def streamFrom (offset : Nat) : List Char → Stream
  | '\r' :: '\n' :: rest => (offset, '\n') :: streamFrom (offset + 2) rest
  | c :: rest => (offset, c) :: streamFrom (offset + c.utf8Size) rest
  | [] => []

/-- The stream of a text, with a byte order mark at its start skipped. -/
def Stream.ofString (text : String) : Stream :=
  match streamFrom 0 text.toList with
  | (_, '\uFEFF') :: rest => rest
  | stream => stream

/-- A character of a bare word. -/
def isKeylike (c : Char) : Bool :=
  ('A' ≤ c && c ≤ 'Z') || ('a' ≤ c && c ≤ 'z') || ('0' ≤ c && c ≤ '9') || c == '-' || c == '_'

/-- A space or a tab. -/
def isBlank (c : Char) : Bool :=
  c == ' ' || c == '\t'

/-- A character a comment may hold: a tab or anything from the space on. -/
def isCommentChar (c : Char) : Bool :=
  c == '\t' || 0x20 ≤ c.toNat

/-- A character a string may hold as it is: a tab or anything from the space on except DEL. -/
def isStringChar (c : Char) : Bool :=
  c == '\t' || (0x20 ≤ c.toNat && c.toNat != 0x7F)

/-- The value of an ASCII hex digit. -/
def hexDigit? (c : Char) : Option Nat :=
  if '0' ≤ c && c ≤ '9' then some (c.toNat - '0'.toNat)
  else if 'a' ≤ c && c ≤ 'f' then some (c.toNat - 'a'.toNat + 10)
  else if 'A' ≤ c && c ≤ 'F' then some (c.toNat - 'A'.toNat + 10)
  else none

/-- A token. -/
inductive Token where
  | whitespace
  | newline
  | comment
  | equals
  | period
  | comma
  | colon
  | plus
  | leftBrace
  | rightBrace
  | leftBracket
  | rightBracket
  /-- A bare word. -/
  | keylike (text : String)
  /-- A string, by its value. -/
  | string (value : String) (multiline : Bool)
deriving DecidableEq, Repr

/-- How a token is named in a message. -/
def Token.describe : Token → String
  | .keylike _ => "an identifier"
  | .equals => "an equals"
  | .period => "a period"
  | .comment => "a comment"
  | .newline => "a newline"
  | .whitespace => "whitespace"
  | .comma => "a comma"
  | .rightBrace => "a right brace"
  | .leftBrace => "a left brace"
  | .rightBracket => "a right bracket"
  | .leftBracket => "a left bracket"
  | .string _ true => "a multiline string"
  | .string _ false => "a string"
  | .colon => "a colon"
  | .plus => "a plus"

/-- A token with the byte offset where it starts. -/
structure Lexeme where
  start : Nat
  token : Token
deriving DecidableEq, Repr

/-- The part of the input not yet read, and the byte length of the whole input. -/
structure Cursor where
  rest : Stream
  size : Nat
deriving Repr

namespace Cursor

/-- A cursor at the start of a text. -/
def ofString (text : String) : Cursor :=
  ⟨Stream.ofString text, text.utf8ByteSize⟩

/-- The byte offset of the next character, or the length of the input at its end. -/
def current (c : Cursor) : Nat :=
  match c.rest with
  | (offset, _) :: _ => offset
  | [] => c.size

/-- The next character, if any. -/
def peekChar? (c : Cursor) : Option Char :=
  c.rest.head?.map Prod.snd

/-- The cursor after the next character. -/
def skip (c : Cursor) : Cursor :=
  { c with rest := c.rest.tail }

/-- The cursor after the next character, if that is `ch`. -/
def eatChar? (c : Cursor) (ch : Char) : Option Cursor :=
  if c.peekChar? == some ch then some c.skip else none

/-- The cursor after the characters at the front that satisfy `p`. -/
def skipWhile (c : Cursor) (p : Char → Bool) : Cursor :=
  { c with rest := c.rest.dropWhile fun e => p e.2 }

/-- The characters at the front that satisfy `p`. -/
def takeWhile (c : Cursor) (p : Char → Bool) : List Char :=
  (c.rest.takeWhile fun e => p e.2).map Prod.snd

/-- The cursor after spaces and tabs. -/
def eatWhitespace (c : Cursor) : Cursor :=
  c.skipWhile isBlank

/-- The cursor after the next line feed, or at the end. -/
def skipToNewline (c : Cursor) : Cursor :=
  { c with rest := (c.rest.dropWhile fun e => e.2 != '\n').tail }

end Cursor

/-- Reads the digits of a `\u` or `\U` escape: `count` ASCII hex digits, whose value must be a
Unicode scalar value. `start` is the offset of the string, `letter` that of the `u`. -/
def hexEscape (start letter : Nat) : Nat → Nat → Cursor → Except Fault (Char × Cursor)
  | 0, value, c =>
    if value < 0xD800 || (0xDFFF < value && value < 0x110000) then .ok (Char.ofNat value, c)
    else .error ⟨letter, .invalidEscapeValue value⟩
  | count + 1, value, c =>
    match c.rest with
    | (offset, ch) :: _ =>
      match hexDigit? ch with
      | some d => hexEscape start letter count (value * 16 + d) c.skip
      | none => .error ⟨offset, .invalidHexEscape ch⟩
    | [] => .error ⟨start, .unterminatedString⟩

/-- After a backslash and the blank `blank` at `offset` in a multi-line basic string: unless the
blank is a line feed, the rest of its line must be blank; the line break and all blanks and line
breaks after it are dropped. -/
def lineEndingEscape (offset : Nat) (blank : Char) (c : Cursor) : Except Fault Cursor :=
  let toBreak : Except Fault Cursor :=
    if blank == '\n' then .ok c
    else
      let afterBlanks := c.eatWhitespace
      match afterBlanks.peekChar? with
      | some '\n' => .ok afterBlanks.skip
      | some _ => .error ⟨offset, .invalidEscape blank⟩
      | none => .ok afterBlanks
  toBreak.map fun r => r.skipWhile fun ch => isBlank ch || ch == '\n'

/-- The character a one-letter escape stands for. -/
def shortEscape? : Char → Option Char
  | '"' => some '"'
  | '\\' => some '\\'
  | 'b' => some '\x08'
  | 'f' => some '\x0C'
  | 'n' => some '\n'
  | 'r' => some '\r'
  | 't' => some '\t'
  | _ => none

/-- Reads an escape after its backslash: the characters it stands for, in reverse order. -/
def escape (start : Nat) (multiline : Bool) (c : Cursor) : Except Fault (List Char × Cursor) :=
  match c.rest with
  | [] => .error ⟨start, .unterminatedString⟩
  | (offset, ch) :: _ =>
    match shortEscape? ch with
    | some e => .ok ([e], c.skip)
    | none =>
      if ch == 'u' then (hexEscape start offset 4 0 c.skip).map fun (e, r) => ([e], r)
      else if ch == 'U' then (hexEscape start offset 8 0 c.skip).map fun (e, r) => ([e], r)
      else if multiline && (isBlank ch || ch == '\n') then
        (lineEndingEscape offset ch c.skip).map fun r => ([], r)
      else .error ⟨offset, .invalidEscape ch⟩

/-- The end of a multi-line string after its first closing quote: `none` if fewer than three
quotes follow in all, else the quotes beyond the closing three (at most two) and the cursor after
them. -/
def closingQuotes (delim : Char) (c : Cursor) : Option (List Char) × Cursor :=
  match c.eatChar? delim with
  | none => (none, c)
  | some c2 =>
    match c2.eatChar? delim with
    | none => (none, c2)
    | some c3 =>
      match c3.eatChar? delim with
      | none => (some [], c3)
      | some c4 =>
        match c4.eatChar? delim with
        | none => (some [delim], c4)
        | some c5 => (some [delim, delim], c5)

/-- Reads the body of a string after its opening quotes, up to and with its closing quotes.
`basic` says that backslashes start escapes; `first` that nothing of the body was read yet;
`acc` holds the value read so far in reverse order. -/
def stringBody (basic multiline : Bool) (delim : Char) (start : Nat) :
    Nat → Bool → List Char → Cursor → Except Fault (Token × Cursor)
  | 0, _, _, _ => .error ⟨start, .unterminatedString⟩
  | fuel + 1, first, acc, c =>
    match c.rest with
    | [] => .error ⟨start, .unterminatedString⟩
    | (offset, ch) :: _ =>
      if ch == '\n' then
        if multiline then
          stringBody basic multiline delim start fuel false (if first then acc else '\n' :: acc)
            c.skip
        else .error ⟨offset, .newlineInString⟩
      else if ch == delim then
        if !multiline then .ok (.string (String.ofList acc.reverse) false, c.skip)
        else
          match closingQuotes delim c.skip with
          | (some extra, after) => .ok (.string (String.ofList (acc.reverse ++ extra)) true, after)
          | (none, after) =>
            -- one or two quotes that do not close the string belong to it
            let quotes := List.replicate (c.rest.length - after.rest.length) delim
            stringBody basic multiline delim start fuel false (quotes ++ acc) after
      else if basic && ch == '\\' then
        match escape start multiline c.skip with
        | .ok (chars, after) =>
          stringBody basic multiline delim start fuel false (chars ++ acc) after
        | .error e => .error e
      else if isStringChar ch then
        stringBody basic multiline delim start fuel false (ch :: acc) c.skip
      else .error ⟨offset, .invalidCharInString ch⟩

/-- Reads a string after its first quote, which stands at `start`. -/
def readString (basic : Bool) (delim : Char) (start : Nat) (c : Cursor) :
    Except Fault (Token × Cursor) :=
  match c.eatChar? delim with
  | some c2 =>
    match c2.eatChar? delim with
    | some c3 => stringBody basic true delim start (c3.rest.length + 1) true [] c3
    | none => .ok (.string "" false, c2)
  | none => stringBody basic false delim start (c.rest.length + 1) true [] c

/-- The token of a punctuation mark. -/
def markToken? : Char → Option Token
  | '\n' => some .newline
  | '=' => some .equals
  | '.' => some .period
  | ',' => some .comma
  | ':' => some .colon
  | '+' => some .plus
  | '{' => some .leftBrace
  | '}' => some .rightBrace
  | '[' => some .leftBracket
  | ']' => some .rightBracket
  | _ => none

namespace Cursor

/-- Reads the next token; `none` at the end of the input. -/
def next (c : Cursor) : Except Fault (Option (Lexeme × Cursor)) :=
  match c.rest with
  | [] => .ok none
  | (start, ch) :: _ =>
    let after := c.skip
    let found (t : Token) (r : Cursor) : Except Fault (Option (Lexeme × Cursor)) :=
      .ok (some (⟨start, t⟩, r))
    match markToken? ch with
    | some t => found t after
    | none =>
      if isBlank ch then found .whitespace after.eatWhitespace
      else if ch == '#' then found .comment (after.skipWhile isCommentChar)
      else if ch == '\'' || ch == '"' then
        (readString (ch == '"') ch start after).map fun (t, r) => some (⟨start, t⟩, r)
      else if isKeylike ch then
        found (.keylike (String.ofList (ch :: after.takeWhile isKeylike)))
          (after.skipWhile isKeylike)
      else .error ⟨start, .unexpected ch⟩

/-- Reads the next token if it is `t`; says whether it did. -/
def eat (c : Cursor) (t : Token) : Except Fault (Bool × Cursor) :=
  match c.next with
  | .error e => .error e
  | .ok (some (l, r)) => if l.token == t then .ok (true, r) else .ok (false, c)
  | .ok none => .ok (false, c)

/-- Reads the next token, which must be `t`. -/
def expect (c : Cursor) (t : Token) : Except Fault Cursor :=
  match c.next with
  | .error e => .error e
  | .ok (some (l, r)) =>
    if l.token == t then .ok r else .error ⟨c.current, .wanted t.describe l.token.describe⟩
  | .ok none => .error ⟨c.size, .wanted t.describe "eof"⟩

/-- Reads a key: a bare word or a string on one line. -/
def tableKey (c : Cursor) : Except Fault (String × Cursor) :=
  match c.next with
  | .error e => .error e
  | .ok (some (⟨_, .keylike k⟩, r)) => .ok (k, r)
  | .ok (some (⟨start, .string s multiline⟩, r)) =>
    if multiline then .error ⟨start, .multilineStringKey⟩ else .ok (s, r)
  | .ok (some (l, _)) => .error ⟨c.current, .wanted "a table key" l.token.describe⟩
  | .ok none => .error ⟨c.size, .wanted "a table key" "eof"⟩

/-- Reads a line break, or nothing at the end of the input. -/
def eatNewlineOrEof (c : Cursor) : Except Fault Cursor :=
  match c.next with
  | .error e => .error e
  | .ok none => .ok c
  | .ok (some (⟨_, .newline⟩, r)) => .ok r
  | .ok (some (l, _)) => .error ⟨c.current, .wanted "newline" l.token.describe⟩

/-- Reads a comment and the line break after it, if a comment comes next; says whether it did. -/
def eatComment (c : Cursor) : Except Fault (Bool × Cursor) :=
  match c.eatChar? '#' with
  | none => .ok (false, c)
  | some r => (r.skipWhile isCommentChar).eatNewlineOrEof.map fun r => (true, r)

end Cursor

end Decomment.Toml
