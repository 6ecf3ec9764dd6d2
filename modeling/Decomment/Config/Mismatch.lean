import Decomment.Number.Text
import Decomment.Text.Printable

/-!
Type mismatches in a config.

When a config holds a value of the wrong kind, the error names what it found and what it
expected: `invalid type: integer `3`, expected path string`. A found string is shown quoted, with
`\"`, `\\`, `\n`, `\r`, `\t` and `\0` for those characters and `\u{…}` (lowercase hex, no leading
zeros) for every other character that is unprintable or extends the grapheme before it
(`quoteShown`). The JSON reader shows `null` and writes floats in the compact layout; the TOML
reader writes floats in the plain layout.
-/

namespace Decomment.Config

/-- What a reader found where it expected something else. -/
inductive Unexpected where
  | null
  | bool (b : Bool)
  | unsigned (n : Nat)
  | signed (i : Int)
  /-- A binary64 value, by its bits. -/
  | float (bits : UInt64)
  | string (s : String)
  | sequence
  | map
deriving DecidableEq, Repr

/-- What a reader expected. -/
inductive Expected where
  /-- The whole settings object. -/
  | settings
  /-- A path, which is a string. -/
  | path
  | bool
deriving DecidableEq, Repr

/-- How one character of a shown string is written. -/
def shownChar (c : Char) : List Char :=
  match c with
  | '\x00' => ['\\', '0']
  | '\t' => ['\\', 't']
  | '\r' => ['\\', 'r']
  | '\n' => ['\\', 'n']
  | '\\' => ['\\', '\\']
  | '"' => ['\\', '"']
  | c =>
    if Text.isExtending c || Text.isUnprintable c then
      ['\\', 'u', '\x7b'] ++ (Nat.toDigits 16 c.toNat) ++ ['\x7d']
    else [c]

/-- A string shown quoted in a message. -/
def quoteShown (s : String) : String :=
  String.ofList ('"' :: s.toList.flatMap shownChar ++ ['"'])

/-- The text of a switch. -/
def boolText (b : Bool) : String :=
  if b then "true" else "false"

namespace Unexpected

/-- The found value in a message, with the float written by `floatText` and null as `nullText`. -/
def describe (floatText : UInt64 → String) (nullText : String) : Unexpected → String
  | null => nullText
  | bool b => "boolean `" ++ boolText b ++ "`"
  | unsigned n => "integer `" ++ toString n ++ "`"
  | signed i => "integer `" ++ toString i ++ "`"
  | float bits => "floating point `" ++ floatText bits ++ "`"
  | string s => "string " ++ quoteShown s
  | sequence => "sequence"
  | map => "map"

/-- The found value in a message of the JSON reader. -/
def jsonText (u : Unexpected) : String :=
  u.describe Number.compactText "null"

/-- The found value in a message of the TOML reader. -/
def tomlText (u : Unexpected) : String :=
  u.describe Number.plainText "unit value"

end Unexpected

/-- The expected value in a message. -/
def Expected.text : Expected → String
  | .settings => "struct StripConfig"
  | .path => "path string"
  | .bool => "a boolean"

/-- The message of a mismatch, found value written by `found`. -/
def mismatchText (found : String) (expected : Expected) : String :=
  "invalid type: " ++ found ++ ", expected " ++ expected.text

end Decomment.Config
