import Decomment.Files.Error
import Decomment.Files.Workspace

/-!
File operations.

The program reaches files through `FileSystem`: reading a file's bytes, creating or truncating a
file, asking whether a path names a file, and listing a directory. Text is read as UTF-8, and
bytes that are not UTF-8 are `invalidUtf8`. The in-memory workspace is an instance, through the
state monad.
-/

namespace Decomment.Files

/-- The file operations a program uses. -/
class FileSystem (m : Type → Type) where
  readBytes : String → m (Except IoError (List UInt8))
  writeBytes : String → List UInt8 → m (Except IoError Unit)
  isFile : String → m Bool
  listDir : String → m (Except IoError (List String))

/-- The text that UTF-8 bytes spell, if they are UTF-8. -/
def decodeUtf8? (bytes : List UInt8) : Option String :=
  String.fromUTF8? ⟨bytes.toArray⟩

/-- The UTF-8 bytes of a text. -/
def encodeUtf8 (text : String) : List UInt8 :=
  text.toUTF8.toList

variable {m : Type → Type} [Monad m] [FileSystem m]

/-- Reads a file as UTF-8 text. -/
def readText (path : String) : m (Except IoError String) := do
  match ← FileSystem.readBytes path with
  | .ok bytes =>
    match decodeUtf8? bytes with
    | some text => return .ok text
    | none => return .error .invalidUtf8
  | .error e => return .error e

/-- Creates or truncates a file with the UTF-8 bytes of a text. -/
def writeText (path text : String) : m (Except IoError Unit) :=
  FileSystem.writeBytes path (encodeUtf8 text)

instance : FileSystem (StateM Workspace) where
  readBytes path := return (← get).read path
  writeBytes path bytes := do
    match (← get).write path bytes with
    | .ok w =>
      set w
      return .ok ()
    | .error e => return .error e
  isFile path := return (← get).isFile path
  listDir path := return (← get).list path

end Decomment.Files
