/-!
File-system errors.

An operation on files fails with an `IoError`: a missing file or directory, a component on the
way that is a file, a directory where a file is needed, a name or path too long for the system,
a path holding a zero byte (which no system call accepts), content that is not UTF-8, or another
numbered system error. `IoError.message` gives the system's text with its error number.
-/

namespace Decomment.Files

/-- Why a file operation failed. -/
inductive IoError where
  /-- A component of the path does not exist (error 2). -/
  | notFound
  /-- A component of the path that should be a directory is a file (error 20). -/
  | notADirectory
  /-- The path names a directory where a file is needed (error 21). -/
  | isADirectory
  /-- A component of the path, or the whole path, is longer than the system allows (error 36). -/
  | nameTooLong
  /-- The path holds a zero byte, so it is refused before any system call. -/
  | nulInPath
  /-- The file's bytes are not UTF-8 text. -/
  | invalidUtf8
  /-- Another system error, by its number. -/
  | os (code : Nat)
deriving DecidableEq, Repr

namespace IoError

/-- The error for a system error number. -/
def ofCode : Nat → IoError
  | 2 => notFound
  | 20 => notADirectory
  | 21 => isADirectory
  | 36 => nameTooLong
  | code => os code

/-- The system's description of an error number. -/
def describe : Nat → String
  | 1 => "Operation not permitted"
  | 2 => "No such file or directory"
  | 5 => "Input/output error"
  | 13 => "Permission denied"
  | 17 => "File exists"
  | 20 => "Not a directory"
  | 21 => "Is a directory"
  | 22 => "Invalid argument"
  | 24 => "Too many open files"
  | 26 => "Text file busy"
  | 27 => "File too large"
  | 28 => "No space left on device"
  | 30 => "Read-only file system"
  | 36 => "File name too long"
  | 40 => "Too many levels of symbolic links"
  | code => "Unknown error " ++ toString code

/-- The text of a numbered system error. -/
def osText (code : Nat) : String :=
  describe code ++ " (os error " ++ toString code ++ ")"

/-- The text of an error. -/
def message : IoError → String
  | notFound => osText 2
  | notADirectory => osText 20
  | isADirectory => osText 21
  | nameTooLong => osText 36
  | nulInPath => "file name contained an unexpected NUL byte"
  | invalidUtf8 => "stream did not contain valid UTF-8"
  | os code => osText code

end IoError

/-- A path holds a zero byte, which ends a path for the system. -/
def hasNul (path : String) : Bool :=
  path.toList.contains (Char.ofNat 0)

end Decomment.Files
