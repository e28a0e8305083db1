import FrontendPolicy.Path

/-!
# Files

The library asks two things of a file system: what is in a file, and whether a path is a directory.
`Files` is a view that answers both, and a `FileFault` says why a file has no contents.
-/

namespace FrontendPolicy

/-- Why a file operation fails. -/
inductive FileFault where
  | notFound
  | exists
  | notDirectory
  | isDirectory
  | nameTooLong
  | notEmpty
  | nulInPath
  | notText
deriving DecidableEq, Repr

/-- The wording of a fault. -/
def FileFault.message : FileFault → String
  | .notFound => "No such file or directory (os error 2)"
  | .exists => "File exists (os error 17)"
  | .notDirectory => "Not a directory (os error 20)"
  | .isDirectory => "Is a directory (os error 21)"
  | .nameTooLong => "File name too long (os error 36)"
  | .notEmpty => "Directory not empty (os error 39)"
  | .nulInPath => "file name contained an unexpected NUL byte"
  | .notText => "stream did not contain valid UTF-8"

/-- A view of a file system at one moment. -/
structure Files where
  read : Path → Except FileFault (List UInt8)
  isDirectory : Path → Bool

end FrontendPolicy
