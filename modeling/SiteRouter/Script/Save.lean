import SiteRouter.Files.Access
import SiteRouter.Script.Writer

/-!
# Saving a script

A script is rendered as a whole before its file is touched, so a script with a line that the
console cannot take leaves the file as it was.
-/

namespace SiteRouter.Script

/-- Why a script has not been saved. -/
inductive SaveError where
  | refused (line : Placed)
  | unwritable (cause : FileError)
  deriving DecidableEq, Repr

/-- Why a script has not been saved, in a sentence. -/
def SaveError.message : SaveError → String
  | .refused line => line.message
  | .unwritable cause => s!"failed to write script file: {cause.message}"

/-- Makes the text of the script the content of a file. -/
def save {m : Type → Type} [Monad m] (files : FileAccess m) (path : String) (s : Script) :
    m (Except SaveError Unit) :=
  match s.write with
  | .error line => return .error (.refused line)
  | .ok text => return (← files.write path text).mapError .unwritable

end SiteRouter.Script
