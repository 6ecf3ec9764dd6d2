/-!
Path texts.

A path is a text of components separated by `/`. Before its components a path may hold a root
`/`, or a `.` that stands alone or before a separator (a leading "current directory"). Empty
segments (from doubled or final separators) and `.` segments after the first are no components.

* `fileName?` is the last component unless that is `..`;
* `extension?` is the part of the file name after its last `.`, unless that `.` is the first
  character of the name (`.json` has none, `a.` has the empty one);
* `stem` is the part before that `.`, or the whole name;
* `join` puts a separator between two paths unless the first is empty or ends in one;
* `withFileName` replaces the file name, keeping the text of the directories before it.
-/

namespace Decomment.Files.Path

/-- The characters before the first component: a root `/`, or a leading `.` that stands alone
or before a separator. -/
def headLength : List Char → Nat
  | '/' :: _ => 1
  | ['.'] => 1
  | '.' :: '/' :: _ => 1
  | _ => 0

/-- Drops the segments at the end that are no component: empty ones and `.`. -/
def trimSegments (segs : List (List Char)) : List (List Char) :=
  (segs.reverse.dropWhile fun s => s.isEmpty || s == ['.']).reverse

/-- The head of a path and the segments of the rest, trimmed at the end. -/
def segments (p : List Char) : List Char × List (List Char) :=
  (p.take (headLength p), trimSegments ((p.drop (headLength p)).splitOn '/'))

/-- The last component of a path, unless it is `..` or the path has none. -/
def fileName? (p : String) : Option String :=
  match (segments p.toList).2.getLast? with
  | some s => if s == ['.', '.'] then none else some (String.ofList s)
  | none => none

/-- Splits a file name at its last `.`, when that `.` is not the first character. -/
def splitAtDot (name : List Char) : Option (List Char × List Char) :=
  match name.reverse.span (· != '.') with
  | (_, []) => none
  | (after, _ :: before) =>
    if before.isEmpty then none else some (before.reverse, after.reverse)

/-- The extension of a path's file name. -/
def extension? (p : String) : Option String :=
  (fileName? p).bind fun name => (splitAtDot name.toList).map fun parts => String.ofList parts.2

/-- The file name without its extension. -/
def stem? (p : String) : Option String :=
  (fileName? p).map fun name =>
    match splitAtDot name.toList with
    | some parts => String.ofList parts.1
    | none => name

/-- Appends a relative path to a base path, with one separator between them; a path that starts
at the root replaces the base. -/
def join (base name : String) : String :=
  if name.startsWith "/" then name
  else if base.isEmpty || base.endsWith "/" then base ++ name
  else base ++ "/" ++ name

/-- The directory part of a path: the text before its last component, without the separators and
`.` segments that end it. -/
def parentText (p : String) : String :=
  let parts := segments p.toList
  String.ofList (parts.1 ++ List.intercalate ['/'] (trimSegments parts.2.dropLast))

/-- Replaces the file name of a path, or appends the name if the path has none. -/
def withFileName (p name : String) : String :=
  match fileName? p with
  | some _ => join (parentText p) name
  | none => join p name

end Decomment.Files.Path
