/-!
# File errors

The reasons for which a file is not read, and the wording of the operating system.
-/

namespace Scaffold

/-- Why a file operation fails. -/
inductive FileError where
  | notFound
  | notDirectory
  | isDirectory
  | nameTooLong
  | fileExists
  /-- The content is no text in UTF-8. -/
  | notText
  /-- The path has a character that no path may have. -/
  | invalidPath
  /-- Any other refusal of the operating system. -/
  | refused
  deriving DecidableEq, Repr

/-- The wording of an error. -/
def FileError.message : FileError → String
  | .notFound => "No such file or directory (os error 2)"
  | .notDirectory => "Not a directory (os error 20)"
  | .isDirectory => "Is a directory (os error 21)"
  | .nameTooLong => "File name too long (os error 36)"
  | .fileExists => "File exists (os error 17)"
  | .notText => "stream did not contain valid UTF-8"
  | .invalidPath => "file name contained an unexpected NUL byte"
  | .refused => "Permission denied (os error 13)"

end Scaffold
