/-!
# Failures of file access

Why a file cannot be read or written, and the words of the operating system for it.
-/

namespace SiteRouter

/-- Why a file cannot be read or written. -/
inductive FileError where
  | notFound
  | notADirectory
  | isADirectory
  | nameTooLong
  | tooManyLinks
  /-- The path holds a character that no file name can hold. -/
  | nulInPath
  /-- The file can be read, but its bytes are no UTF-8 text. -/
  | notUtf8
  /-- Any other failure, in the words of the operating system. -/
  | other (text : String)
  deriving DecidableEq, Repr

/-- The failure in the words of the operating system. -/
def FileError.message : FileError → String
  | .notFound => "No such file or directory (os error 2)"
  | .notADirectory => "Not a directory (os error 20)"
  | .isADirectory => "Is a directory (os error 21)"
  | .nameTooLong => "File name too long (os error 36)"
  | .tooManyLinks => "Too many levels of symbolic links (os error 40)"
  | .nulInPath => "file name contained an unexpected NUL byte"
  | .notUtf8 => "stream did not contain valid UTF-8"
  | .other text => text

end SiteRouter
