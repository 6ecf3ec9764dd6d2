import Decomment.Config.Mismatch

/-!
Errors of the JSON reader.

An error names its problem and where in the text it was found: the line, counted from 1, and the
column, counted in bytes since the last line feed. While reading, an error records the input not
yet read and how many bytes of it count as read (`Fault`); `Fault.locate` turns that into a
position in the whole text.
-/

namespace Decomment.Json

open Decomment.Config

/-- A place in a text: the line counted from 1 and the bytes read of it. -/
structure Position where
  line : Nat
  column : Nat
deriving DecidableEq, Repr

namespace Position

/-- The start of a text. -/
def start : Position := ⟨1, 0⟩

/-- The position after reading one more character. -/
def advance (p : Position) (c : Char) : Position :=
  if c == '\n' then ⟨p.line + 1, 0⟩ else ⟨p.line, p.column + c.utf8Size⟩

/-- The position after reading a text. -/
def after (p : Position) (text : List Char) : Position :=
  text.foldl advance p

/-- The position after reading `n` more bytes of a text; a character cut by the count adds the
bytes read of it. -/
def afterBytes : Position → List Char → Nat → Position
  | p, _, 0 => p
  | p, [], _ => p
  | p, c :: rest, n + 1 =>
    if c.utf8Size ≤ n + 1 then afterBytes (p.advance c) rest (n + 1 - c.utf8Size)
    else ⟨p.line, p.column + n + 1⟩

end Position

/-- What went wrong. -/
inductive Problem where
  | eofInList
  | eofInObject
  | eofInString
  | eofInValue
  | expectedColon
  | expectedListCommaOrEnd
  | expectedObjectCommaOrEnd
  | expectedIdent
  | expectedValue
  | invalidEscape
  | invalidNumber
  | numberOutOfRange
  | controlCharacter
  | keyMustBeAString
  | loneLeadingSurrogate
  | trailingComma
  | trailingCharacters
  | unexpectedEndOfHexEscape
  | invalidType (found : Unexpected) (expected : Expected)
  | duplicateField (name : String)
deriving DecidableEq, Repr

/-- The text of a problem. -/
def Problem.text : Problem → String
  | .eofInList => "EOF while parsing a list"
  | .eofInObject => "EOF while parsing an object"
  | .eofInString => "EOF while parsing a string"
  | .eofInValue => "EOF while parsing a value"
  | .expectedColon => "expected `:`"
  | .expectedListCommaOrEnd => "expected `,` or `]`"
  | .expectedObjectCommaOrEnd => "expected `,` or `\x7d`"
  | .expectedIdent => "expected ident"
  | .expectedValue => "expected value"
  | .invalidEscape => "invalid escape"
  | .invalidNumber => "invalid number"
  | .numberOutOfRange => "number out of range"
  | .controlCharacter => "control character (\\u0000-\\u001F) found while parsing a string"
  | .keyMustBeAString => "key must be a string"
  | .loneLeadingSurrogate => "lone leading surrogate in hex escape"
  | .trailingComma => "trailing comma"
  | .trailingCharacters => "trailing characters"
  | .unexpectedEndOfHexEscape => "unexpected end of hex escape"
  | .invalidType found expected => mismatchText found.jsonText expected
  | .duplicateField name => "duplicate field `" ++ name ++ "`"

/-- An error while reading: the problem, the input not yet read, and how many bytes of that input
count as read. -/
structure Fault where
  problem : Problem
  rest : List Char
  extra : Nat
deriving DecidableEq, Repr

/-- An error of the JSON reader with its position in the text. -/
structure ParseError where
  problem : Problem
  position : Position
deriving DecidableEq, Repr

/-- The position of a fault in the text that was read. -/
def Fault.locate (text : List Char) (f : Fault) : ParseError :=
  { problem := f.problem
    position := (Position.start.after (text.take (text.length - f.rest.length))).afterBytes
      f.rest f.extra }

/-- The text of an error, with its position. -/
def ParseError.message (e : ParseError) : String :=
  e.problem.text ++ " at line " ++ toString e.position.line ++ " column " ++
    toString e.position.column

end Decomment.Json
