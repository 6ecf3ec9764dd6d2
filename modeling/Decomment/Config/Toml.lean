import Decomment.Config.Fields
import Decomment.Toml.Document

/-!
Settings from TOML text.

The tables of a document are walked the way a reader of nested maps walks them: a walk at depth
`d` sees the pairs of the tables whose header has the walk's path as its first `d` keys, and for
a longer header it sees the header's next key, whose value is a walk one level deeper. The top
walk gives the settings: `input` and `output` must be strings and `keep_pragma_only` a boolean,
a field met twice is an error, and everything else is walked through and dropped. Walking
through finds tables defined twice (two equal headers) and tables redefined as arrays.

Errors about a value point at the value; errors with no place of their own (a field met twice,
a table where a field belongs, an array where a field belongs) point at the last table of the
document. Each error names the keys
that lead to it, outermost first.

The walks carry a fuel argument; every step takes a pair or a table, or goes one level deeper,
so the square of the number of characters is more than enough.
-/

namespace Decomment.Config

open Decomment.Toml

/-- An error found while walking the tables: the problem, the byte offset it points at if it has
one of its own, and the keys that lead to it, outermost first. -/
structure Issue where
  problem : Problem
  offset : Option Nat := none
  keys : List String := []

/-- The issue of a fault at its offset. -/
def Issue.ofFault (f : Fault) : Issue :=
  { problem := f.problem, offset := some f.offset }

/-- The issue seen from one key further out. -/
def Issue.under (key : String) (i : Issue) : Issue :=
  { i with keys := key :: i.keys }

/-- A walk over the tables: its depth, the first table it has not looked at, the table it
belongs to, the end of the tables it may see, and whether it reads an array of tables. -/
structure Walk where
  depth : Nat
  next : Nat
  parent : Nat
  limit : Nat
  array : Bool

/-- What a walk meets next: a pair of a table, or a key of a longer header. -/
inductive Entry where
  | pair (key : String) (value : Value)
  | header (key : String)

/-- The table at an index, or an empty one past the end. -/
def tableAt (tables : List Table) (i : Nat) : Table :=
  tables.getD i ⟨0, [], none, false⟩

/-- The first table from `start` up to `limit` whose header begins with `path` and that still
holds pairs. -/
def nextTable (tables : List Table) (path : List String) (start limit : Nat) : Option Nat :=
  (List.range' start (limit - start)).find? fun i =>
    let t := tableAt tables i
    path.length ≤ t.header.length && t.header.take path.length == path && t.values.isSome

/-- Takes the pairs of a table out, leaving it without. -/
def takeValues (tables : List Table) (i : Nat) : List (String × Value) × List Table :=
  let t := tableAt tables i
  (t.values.getD [], tables.set i { t with values := none })

/-- The state of a walk: the tables, the walk, and the pairs it has taken but not yet met. -/
abbrev Step := List Table × Walk × List (String × Value)

/-- Finds what a walk meets next, once its pending pairs are used up: the next table on its path
that still holds pairs, whose header gives a key if it is longer than the walk is deep, and whose
pairs are taken otherwise. -/
def seek : Nat → List Table → Walk → List (String × Value) → Except Issue (Option Entry × Step)
  | 0, tables, w, values => .ok (none, tables, w, values)
  | fuel + 1, tables, w, values =>
    match values with
    | (key, v) :: rest => .ok (some (.pair key v), tables, w, rest)
    | [] =>
      let path := (tableAt tables w.parent).header.take w.depth
      match nextTable tables path w.next w.limit with
      | none => .ok (none, tables, w, [])
      | some pos =>
        let w := { w with next := pos }
        let parentHeader := (tableAt tables w.parent).header
        let found := tableAt tables pos
        if w.parent != pos && parentHeader == found.header then
          .error { problem := .duplicateTable (".".intercalate found.header),
                   offset := some found.start }
        else
          let w := if w.parent != pos && found.header.length < parentHeader.length then
            { w with parent := pos } else w
          if w.depth != found.header.length then
            .ok (some (.header (found.header.getD w.depth "")), tables, w, [])
          else if found.array then
            .error { problem := .redefineAsArray, offset := some found.start }
          else
            let (taken, tables) := takeValues tables pos
            seek fuel tables w taken

/-- What a walk meets next; `none` once it has met everything. -/
def nextEntry (fuel : Nat) (tables : List Table) (w : Walk) (values : List (String × Value)) :
    Except Issue (Option Entry × Step) :=
  if w.parent == w.limit || w.next == w.limit then .ok (none, tables, w, values)
  else seek fuel tables w values

/-- The walk into the value of a header key just met, and the walk after it. -/
def descend (tables : List Table) (w : Walk) : Walk × Walk :=
  let t := tableAt tables w.next
  let array := t.array && w.depth + 1 == t.header.length
  ({ depth := if array then w.depth else w.depth + 1, next := 0, parent := w.next,
     limit := w.limit, array },
   { w with next := w.next + 1 })

/-- The first table after `parent` and before `limit` with the header `header` that is an element
of an array of tables, or `limit`. -/
def nextArrayTable (tables : List Table) (header : List String) (parent limit : Nat) : Nat :=
  ((List.range' (parent + 1) (limit - (parent + 1))).find? fun i =>
    let t := tableAt tables i
    t.header == header && t.array).getD limit

mutual

/-- Walks through everything a walk sees, dropping it. -/
def skipWalk : Nat → List Table → Walk → List (String × Value) → Except Issue (List Table)
  | 0, tables, _, _ => .ok tables
  | fuel + 1, tables, w, values =>
    if w.array then skipElements fuel tables w else skipEntries fuel tables w values

/-- Walks through the entries of a walk, dropping them. -/
def skipEntries : Nat → List Table → Walk → List (String × Value) → Except Issue (List Table)
  | 0, tables, _, _ => .ok tables
  | fuel + 1, tables, w, values =>
    match nextEntry fuel tables w values with
    | .error e => .error e
    | .ok (none, tables, _, _) => .ok tables
    | .ok (some (.pair _ _), tables, w, values) => skipEntries fuel tables w values
    | .ok (some (.header key), tables, w, values) =>
      let (inner, w) := descend tables w
      match skipWalk fuel tables inner [] with
      | .error e => .error (e.under key)
      | .ok tables => skipEntries fuel tables w values

/-- Walks through the elements of an array of tables, dropping them. -/
def skipElements : Nat → List Table → Walk → Except Issue (List Table)
  | 0, tables, _ => .ok tables
  | fuel + 1, tables, w =>
    if w.parent == w.limit then .ok tables
    else
      let next := nextArrayTable tables (tableAt tables w.parent).header w.parent w.limit
      let (taken, tables) := takeValues tables w.parent
      let element : Walk :=
        { depth := w.depth + 1, next := 0, parent := w.parent, limit := next, array := false }
      match skipWalk fuel tables element taken with
      | .error e => .error e
      | .ok tables => skipElements fuel tables { w with parent := next }

end

/-- What a TOML value is, in a type error. -/
def unexpectedOf : Value → Unexpected
  | .integer _ i => .signed i
  | .float _ bits => .float bits
  | .boolean _ b => .bool b
  | .string _ s => .string s
  | .datetime _ => .map
  | .array _ _ => .sequence
  | .inlineTable _ _ | .dottedTable _ _ => .map

/-- Where a type error about a value points: at the value, except for an array, whose error keeps
no place of its own and so points at the last table. -/
def mismatchOffset : Value → Option Nat
  | .array _ _ => none
  | v => some v.start

/-- Sets a field from its value, which must be of the field's kind; `none` for a name that is not
a field. -/
def setField? (fields : Fields) (key : String) (v : Value) : Option (Except Issue Fields) :=
  let mismatch (expected : Expected) : Except Issue Fields :=
    .error { problem := .invalidType (unexpectedOf v) expected, offset := mismatchOffset v,
             keys := [key] }
  let twice : Except Issue Fields := .error { problem := .duplicateField key }
  match key with
  | "input" =>
    if fields.input.isSome then some twice
    else match v with
      | .string _ s => some (.ok { fields with input := some s })
      | _ => some (mismatch .path)
  | "output" =>
    if fields.output.isSome then some twice
    else match v with
      | .string _ s => some (.ok { fields with output := some s })
      | _ => some (mismatch .path)
  | "keep_pragma_only" =>
    if fields.keepPragmaOnly.isSome then some twice
    else match v with
      | .boolean _ b => some (.ok { fields with keepPragmaOnly := some b })
      | _ => some (mismatch .bool)
  | _ => none

/-- The expected kind of a field, and whether it was set already; `none` for a name that is not a
field. -/
def fieldState? (fields : Fields) : String → Option (Expected × Bool)
  | "input" => some (.path, fields.input.isSome)
  | "output" => some (.path, fields.output.isSome)
  | "keep_pragma_only" => some (.bool, fields.keepPragmaOnly.isSome)
  | _ => none

/-- Reads the fields from the top walk. -/
def readFields : Nat → List Table → Walk → List (String × Value) → Fields → Except Issue Fields
  | 0, _, _, _, fields => .ok fields
  | fuel + 1, tables, w, values, fields =>
    match nextEntry fuel tables w values with
    | .error e => .error e
    | .ok (none, _, _, _) => .ok fields
    | .ok (some (.pair key v), tables, w, values) =>
      match setField? fields key v with
      | some (.error e) => .error e
      | some (.ok fields) => readFields fuel tables w values fields
      | none => readFields fuel tables w values fields
    | .ok (some (.header key), tables, w, values) =>
      let (inner, w) := descend tables w
      match fieldState? fields key with
      | some (_, true) => .error { problem := .duplicateField key }
      | some (expected, false) =>
        let found : Unexpected := if inner.array then .sequence else .map
        .error { problem := .invalidType found expected, keys := [key] }
      | none =>
        match skipWalk fuel tables inner [] with
        | .error e => .error (e.under key)
        | .ok tables => readFields fuel tables w values fields

/-- The error of an issue in a text whose tables are `tables`: an issue with no place of its own
points at the last table. -/
def Issue.locate (text : String) (tables : List Table) (i : Issue) : Toml.Error :=
  let offset := i.offset <|> (tables.getLast?.map Table.start)
  { problem := i.problem, keys := i.keys, position := offset.map (lineColumn text) }

/-- Reads settings from TOML text. -/
def readToml (text : String) : Except Toml.Error Settings :=
  match Table.read text with
  | .error f => .error (f.locate text [])
  | .ok tables =>
    let top : Walk := { depth := 0, next := 0, parent := 0, limit := tables.length, array := false }
    let fuel := (text.length + 2) * (text.length + 2)
    match readFields fuel tables top [] {} with
    | .error i => .error (i.locate text tables)
    | .ok fields => .ok fields.settings

end Decomment.Config

namespace Decomment

/-- Reads settings from TOML text. -/
def Settings.ofToml (text : String) : Except Toml.Error Settings :=
  Config.readToml text

end Decomment
