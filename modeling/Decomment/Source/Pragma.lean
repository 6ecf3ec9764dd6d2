/-!
The version pragma.

A pragma statement is the keyword `pragma solidity`, then at least one character that is not
`;`, then `;` (line feeds may stand in between). `fromPragma` keeps a source from its first pragma
statement on and keeps a source without one whole. The search is textual: a pragma inside an
earlier comment counts.
-/

namespace Decomment.Source

/-- The keyword that opens a pragma statement, with its single space. -/
def pragmaKeyword : List Char :=
  "pragma solidity".toList

/-- The text after the keyword completes a pragma statement: it starts with a character other
than `;` and holds a `;` later on. -/
def completesPragma : List Char → Bool
  | [] => false
  | c :: rest => c != ';' && rest.contains ';'

/-- A pragma statement starts at the front of the text. -/
def startsPragma (text : List Char) : Bool :=
  pragmaKeyword.isPrefixOf text && completesPragma (text.drop pragmaKeyword.length)

/-- The text from its first pragma statement on, if it has one. -/
def pragmaSuffix? : List Char → Option (List Char)
  | [] => none
  | c :: rest => if startsPragma (c :: rest) then some (c :: rest) else pragmaSuffix? rest

/-- The text from its first pragma statement on, or the whole text if it has none. -/
def fromPragma (text : List Char) : List Char :=
  (pragmaSuffix? text).getD text

end Decomment.Source
