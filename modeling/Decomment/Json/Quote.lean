/-!
JSON string literals.

`quote` writes a string as a JSON string literal the compact way: a quote and a backslash get a
backslash, the five controls with a short escape (`\b`, `\f`, `\n`, `\r`, `\t`) use it, the other
characters below U+0020 become `\u00xx` with lowercase hex digits, and every other character,
DEL and all non-ASCII included, is written as it is.
-/

namespace Decomment.Json

/-- The lowercase hexadecimal digit of a number below 16. -/
def hexDigit (n : Nat) : Char :=
  if n < 10 then Char.ofNat (0x30 + n) else Char.ofNat (0x61 + n - 10)

/-- How one character is written inside a JSON string literal. -/
def escapeChar (c : Char) : List Char :=
  match c with
  | '"' => ['\\', '"']
  | '\\' => ['\\', '\\']
  | '\x08' => ['\\', 'b']
  | '\x0c' => ['\\', 'f']
  | '\n' => ['\\', 'n']
  | '\r' => ['\\', 'r']
  | '\t' => ['\\', 't']
  | c =>
    if c.toNat < 0x20 then
      ['\\', 'u', '0', '0', hexDigit (c.toNat / 16), hexDigit (c.toNat % 16)]
    else [c]

/-- The JSON string literal of a text, quotes included. -/
def quoteChars (text : List Char) : List Char :=
  '"' :: text.flatMap escapeChar ++ ['"']

/-- The JSON string literal of a string, quotes included. -/
def quote (s : String) : String :=
  String.ofList (quoteChars s.toList)

end Decomment.Json
