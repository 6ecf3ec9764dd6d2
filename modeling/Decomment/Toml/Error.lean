import Decomment.Config.Mismatch

/-!
Errors of the TOML reader.

An error names its problem, the key it concerns (as the path of names from the top table, if
any) and where it stands: a line and a column, both counted from 1, the column in bytes. While
reading, a problem is found at a byte offset (`Fault`); `lineColumn` turns the offset into a line
and a column. A character in a message is written with its default escape: `\t`, `\r`, `\n`,
`\'`, `\"` and `\\` for those, printable ASCII as it is, and `\u{…}` for everything else.
-/

namespace Decomment.Toml

open Decomment.Config

/-- What went wrong while reading TOML. -/
inductive Problem where
  | unexpectedEof
  | invalidCharInString (c : Char)
  | invalidEscape (c : Char)
  | invalidHexEscape (c : Char)
  | invalidEscapeValue (n : Nat)
  | newlineInString
  | unexpected (c : Char)
  | unterminatedString
  | numberInvalid
  | dateInvalid
  /-- A token of one kind where another was wanted, both by description. -/
  | wanted (expected found : String)
  | duplicateTable (name : String)
  | redefineAsArray
  | multilineStringKey
  | dottedKeyInvalidType
  | unquotedString
  /-- A settings value of the wrong kind. -/
  | invalidType (found : Unexpected) (expected : Expected)
  | duplicateField (name : String)
deriving DecidableEq, Repr

/-- How a character is written in a message. -/
def escapeDefault (c : Char) : String :=
  match c with
  | '\t' => "\\t"
  | '\r' => "\\r"
  | '\n' => "\\n"
  | '\'' => "\\'"
  | '"' => "\\\""
  | '\\' => "\\\\"
  | c =>
    if 0x20 ≤ c.toNat && c.toNat ≤ 0x7E then String.singleton c
    else "\\u\x7b" ++ String.ofList (Nat.toDigits 16 c.toNat) ++ "\x7d"

/-- The text of a problem. -/
def Problem.text : Problem → String
  | .unexpectedEof => "unexpected eof encountered"
  | .invalidCharInString c => "invalid character in string: `" ++ escapeDefault c ++ "`"
  | .invalidEscape c => "invalid escape character in string: `" ++ escapeDefault c ++ "`"
  | .invalidHexEscape c => "invalid hex escape character in string: `" ++ escapeDefault c ++ "`"
  | .invalidEscapeValue n => "invalid escape value: `" ++ toString n ++ "`"
  | .newlineInString => "newline in string found"
  | .unexpected c => "unexpected character found: `" ++ escapeDefault c ++ "`"
  | .unterminatedString => "unterminated string"
  | .numberInvalid => "invalid number"
  | .dateInvalid => "invalid date"
  | .wanted expected found => "expected " ++ expected ++ ", found " ++ found
  | .duplicateTable name => "redefinition of table `" ++ name ++ "`"
  | .redefineAsArray => "table redefined as array"
  | .multilineStringKey => "multiline strings are not allowed for key"
  | .dottedKeyInvalidType => "dotted key attempted to extend non-table type"
  | .unquotedString => "invalid TOML value, did you mean to use a quoted string?"
  | .invalidType found expected => mismatchText found.tomlText expected
  | .duplicateField name => "duplicate field `" ++ name ++ "`"

/-- A problem found at a byte offset of the input. -/
structure Fault where
  offset : Nat
  problem : Problem
deriving DecidableEq, Repr

/-- The byte lengths of the lines of a text, a final line feed ending the last line rather than
starting an empty one. -/
def lineLengths (text : String) : List Nat :=
  let lengths := (text.splitOn "\n").map String.utf8ByteSize
  if lengths.getLast? == some 0 then lengths.dropLast else lengths

/-- The line and column, both counted from 1, of the byte at `offset` among lines of the given
lengths, the first starting at byte `start` with number `line` counted from 0. An offset past the
last line stands at the start of the line after it. -/
def lineColumnFrom (line start offset : Nat) : List Nat → Nat × Nat
  | [] => (line + 1, 1)
  | length :: rest =>
    if offset < start + length + 1 then (line + 1, offset - start + 1)
    else lineColumnFrom (line + 1) (start + length + 1) offset rest

/-- The line and column, both counted from 1, of a byte offset of a text. -/
def lineColumn (text : String) (offset : Nat) : Nat × Nat :=
  lineColumnFrom 0 0 offset (lineLengths text)

/-- An error of the TOML reader: the problem, the key path it concerns, and its line and column,
counted from 1. -/
structure Error where
  problem : Problem
  keys : List String := []
  position : Option (Nat × Nat) := none
deriving DecidableEq, Repr

/-- The text of an error. -/
def Error.message (e : Error) : String :=
  let keyText := if e.keys.isEmpty then "" else " for key `" ++ ".".intercalate e.keys ++ "`"
  let positionText :=
    match e.position with
    | some (line, column) => " at line " ++ toString line ++ " column " ++ toString column
    | none => ""
  e.problem.text ++ keyText ++ positionText

/-- The error of a fault in a text, about the given keys. -/
def Fault.locate (text : String) (keys : List String) (f : Fault) : Error :=
  { problem := f.problem, keys, position := some (lineColumn text f.offset) }

end Decomment.Toml
