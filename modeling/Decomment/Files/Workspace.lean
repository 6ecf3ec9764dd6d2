import Decomment.Files.Error

/-!
The workspace: an in-memory directory tree.

A workspace holds files and directories under one root directory, each by the list of
components of its path from the root. Paths are resolved the way the system resolves them: `.`
stays, `..` goes up, each component before the last must be a directory (a missing one is
`notFound`, a file is `notADirectory`), and a final separator asks for a directory. The
directories above the root (reached by `..` or from `/`) exist, but nothing in them is known:
listing one shows nothing, and nothing named in one can be read or written.

A path that holds a zero byte is refused first (`nulInPath`). A path of `pathMax` bytes or more
is refused before it is resolved, and a component longer than
`nameMax` bytes when it is looked up in its directory; both are `nameTooLong`. So a component
that is missing or a file earlier on the path is reported first.

Reading a directory is `isADirectory`; writing creates or truncates a file and fails with
`isADirectory` when the path names a directory, ends in a separator, or ends in `.` or `..`. A
failed write leaves the workspace as it was.

There are no symbolic links: a file or directory is reached by one list of components only, so
paths that resolve to different keys name different files, and a write changes the one file its
key names. The independence of the jobs of a batch (distinct names in a directory are distinct
files) and the frame of a batch run (each job changes its own output and nothing else) rest on
this; with links, two names listed in a directory could be one file.
-/

namespace Decomment.Files

/-- What a path of the workspace holds. -/
inductive Node where
  | file (bytes : List UInt8)
  | dir
deriving DecidableEq, Repr

/-- Files and directories under one root, each by the components of its path. The root itself is
a directory and is not listed. -/
structure Workspace where
  nodes : List (List String × Node) := []
deriving Repr

/-- How a path text is read for a lookup: whether it starts at the root, its components, and
whether it ends in a separator. -/
structure Route where
  absolute : Bool
  parts : List String
  slash : Bool
deriving Repr

/-- The components of a path text: the pieces between separators that are not empty. -/
def pieces (p : List Char) : List (List Char) :=
  (p.splitOn '/').filter fun piece => !piece.isEmpty

/-- Splits a path text into a route. Empty segments are no components. -/
def Route.ofText (p : String) : Route :=
  { absolute := p.startsWith "/"
    parts := (pieces p.toList).map String.ofList
    slash := p.endsWith "/" }

/-- Where a walk over components has got to: a directory of the workspace, or above its root. -/
inductive Place where
  | inside (dir : List String)
  | outside
deriving DecidableEq, Repr

/-- The directory above a place. -/
def Place.up : Place → Place
  | .inside [] => .outside
  | .inside dir => .inside dir.dropLast
  | .outside => .outside

/-- What a lookup finds: a directory, by its place, or a file's bytes. -/
inductive Found where
  | dir (place : Place)
  | file (bytes : List UInt8)
deriving DecidableEq, Repr

/-- The longest name of a directory entry, in bytes. -/
def nameMax : Nat := 255

/-- The shortest path text, in bytes, that is too long: the system stores a path with a zero byte
after it in a buffer of this many bytes. -/
def pathMax : Nat := 4096

/-- A component is too long to be looked up. -/
def tooLong (c : String) : Bool :=
  c.utf8ByteSize > nameMax

/-- The value an association list holds under a key: that of its first entry with the key. -/
def findEntry? {κ ν : Type} [BEq κ] (entries : List (κ × ν)) (key : κ) : Option ν :=
  (entries.find? fun entry => entry.1 == key).map (·.2)

/-- Puts a value under a key of an association list: the entries with the key take the value, or
a new entry goes at the end. -/
def putEntry {κ ν : Type} [BEq κ] (entries : List (κ × ν)) (key : κ) (value : ν)
    : List (κ × ν) :=
  if entries.any (fun entry => entry.1 == key) then
    entries.map fun entry => if entry.1 == key then (key, value) else entry
  else entries ++ [(key, value)]

namespace Workspace

/-- The node at a path, if there is one. -/
def node? (w : Workspace) (key : List String) : Option Node :=
  findEntry? w.nodes key

/-- Puts a node at a path, replacing what was there. -/
def set (w : Workspace) (key : List String) (n : Node) : Workspace :=
  { nodes := putEntry w.nodes key n }

/-- Walks from a place through components that must all be directories. A component too long is
refused where it is looked up, also above the root, where every other name is unknown. -/
def descend (w : Workspace) : Place → List String → Except IoError Place
  | place, [] => .ok place
  | place, c :: cs =>
    if c == "." then w.descend place cs
    else if c == ".." then w.descend place.up cs
    else if tooLong c then .error .nameTooLong
    else match place with
      | .outside => .error .notFound
      | .inside dir =>
        match w.node? (dir ++ [c]) with
        | some .dir => w.descend (.inside (dir ++ [c])) cs
        | some (.file _) => .error .notADirectory
        | none => .error .notFound

/-- Where a route starts. -/
def start (r : Route) : Place :=
  if r.absolute then .outside else .inside []

/-- The errors of a path text before it is resolved: a zero byte, no text, or too many bytes. -/
def refusal? (p : String) : Option IoError :=
  if hasNul p then some .nulInPath
  else if p.isEmpty then some .notFound
  else if p.utf8ByteSize ≥ pathMax then some .nameTooLong
  else none

/-- Finds what a path names. -/
def locate (w : Workspace) (p : String) : Except IoError Found :=
  match refusal? p with
  | some e => .error e
  | none =>
    let r := Route.ofText p
    match r.parts.getLast? with
    | none => .ok (.dir (start r))
    | some last =>
      match w.descend (start r) r.parts.dropLast with
      | .error e => .error e
      | .ok place =>
        if last == "." then .ok (.dir place)
        else if last == ".." then .ok (.dir place.up)
        else if tooLong last then .error .nameTooLong
        else match place with
          | .outside => .error .notFound
          | .inside dir =>
            match w.node? (dir ++ [last]) with
            | none => .error .notFound
            | some .dir => .ok (.dir (.inside (dir ++ [last])))
            | some (.file bytes) => if r.slash then .error .notADirectory else .ok (.file bytes)

/-- The bytes of the file a path names. -/
def read (w : Workspace) (p : String) : Except IoError (List UInt8) :=
  match w.locate p with
  | .ok (.file bytes) => .ok bytes
  | .ok (.dir _) => .error .isADirectory
  | .error e => .error e

/-- Whether a path names a file. -/
def isFile (w : Workspace) (p : String) : Bool :=
  match w.locate p with
  | .ok (.file _) => true
  | _ => false

/-- The names in the directory a path names. -/
def list (w : Workspace) (p : String) : Except IoError (List String) :=
  match w.locate p with
  | .ok (.dir (.inside dir)) =>
    .ok (w.nodes.filterMap fun entry =>
      if entry.1.dropLast == dir && entry.1.length == dir.length + 1 then entry.1.getLast?
      else none)
  | .ok (.dir .outside) => .ok []
  | .ok (.file _) => .error .notADirectory
  | .error e => .error e

/-- The path of the file that writing a path creates or truncates, or why it cannot be
written. -/
def fileKey (w : Workspace) (p : String) : Except IoError (List String) :=
  match refusal? p with
  | some e => .error e
  | none =>
    let r := Route.ofText p
    match r.parts.getLast? with
    | none => .error .isADirectory
    | some last =>
      match w.descend (start r) r.parts.dropLast with
      | .error e => .error e
      | .ok place =>
        if last == "." || last == ".." || r.slash then .error .isADirectory
        else if tooLong last then .error .nameTooLong
        else match place with
          | .outside => .error .notFound
          | .inside dir =>
            if w.node? (dir ++ [last]) = some .dir then .error .isADirectory
            else .ok (dir ++ [last])

/-- Creates or truncates the file a path names, with the given bytes. -/
def write (w : Workspace) (p : String) (bytes : List UInt8) : Except IoError Workspace :=
  (w.fileKey p).map fun key => w.set key (.file bytes)

/-- Makes every directory on a path, as far as it is not there yet. -/
def makeDirs (w : Workspace) (parts : List String) : Workspace :=
  (List.range parts.length).foldl (fun acc n =>
    let key := parts.take (n + 1)
    match acc.node? key with
    | some _ => acc
    | none => acc.set key .dir) w

/-- Puts a file at a path, making the directories above it. -/
def putFile (w : Workspace) (parts : List String) (bytes : List UInt8) : Workspace :=
  (w.makeDirs parts.dropLast).set parts (.file bytes)

/-- The components of a relative path that stays inside the workspace; `none` for a path from
the root or one with `..`. -/
def keyOf? (p : String) : Option (List String) :=
  let r := Route.ofText p
  if r.absolute || r.parts.contains ".." then none else some (r.parts.filter (· != "."))

/-- The path text of a key. -/
def textOf (key : List String) : String :=
  "/".intercalate key

/-- Every file, by path text, with its bytes. -/
def files (w : Workspace) : List (String × List UInt8) :=
  w.nodes.filterMap fun entry =>
    match entry.2 with
    | .file bytes => some (textOf entry.1, bytes)
    | .dir => none

/-- Every directory, by path text, in text order. -/
def dirs (w : Workspace) : List String :=
  (w.nodes.filterMap fun entry =>
    match entry.2 with
    | .dir => some (textOf entry.1)
    | .file _ => none).mergeSort fun a b => decide (a ≤ b)

end Workspace

end Decomment.Files
