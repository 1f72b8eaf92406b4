import TapeWorkbench.Fault

/-!
# The text of files

Files are read outside of this library.  Here is what a reading comes to: the
bytes, which have to be UTF-8, or the reason why there are none.
-/

namespace TapeWorkbench

/-- Why a file could not be read as text. -/
inductive ReadFailure where
  | notFound
  | permissionDenied
  | isDirectory
  /-- The path leads on from a file as if it were a directory. -/
  | notDirectory
  | nameTooLong
  /-- The path contains the character with code zero. -/
  | zeroInName
  | notUnicode
  | other (detail : String)
  deriving DecidableEq, Repr

namespace ReadFailure

def message : ReadFailure → String
  | notFound => "No such file or directory (os error 2)"
  | permissionDenied => "Permission denied (os error 13)"
  | isDirectory => "Is a directory (os error 21)"
  | notDirectory => "Not a directory (os error 20)"
  | nameTooLong => "File name too long (os error 36)"
  | zeroInName => "file name contained an unexpected NUL byte"
  | notUnicode => "stream did not contain valid UTF-8"
  | other detail => detail

end ReadFailure

namespace FileText

/-- The text that bytes encode. -/
def decode (bytes : ByteArray) : Except ReadFailure String :=
  match String.fromUTF8? bytes with
  | some text => .ok text
  | none => .error .notUnicode

/-- The text of the file at a path, from what came of reading it. -/
def ofReading (path : String) (reading : Except ReadFailure ByteArray) : Except Fault String :=
  match reading.bind decode with
  | .ok text => .ok text
  | .error failure =>
    .error (.fileUnreadable ("Failed to read file " ++ path ++ ": " ++ failure.message))

end FileText
end TapeWorkbench
