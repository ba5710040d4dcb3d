import SiteRouter.CommandLine.Run
import Std.Time.DateTime.Timestamp

/-!
# The program

`CommandLine.run` with the files, the clock and the streams of the operating system. Everything is
decided there; here its actions are carried out and its outcome is put on the two streams.
-/

namespace SiteRouter.CommandLine

/-- The failure of the operating system as a failure of file access. -/
def systemError : IO.Error → FileError
  | .noFileOrDirectory .. => .notFound
  | .inappropriateType _ 20 _ => .notADirectory
  | .inappropriateType _ 21 _ => .isADirectory
  | .invalidArgument _ 36 _ => .nameTooLong
  | .invalidArgument _ 40 _ => .tooManyLinks
  | .permissionDenied _ code details => .other s!"{details} (os error {code})"
  | .resourceExhausted _ code details => .other s!"{details} (os error {code})"
  | e => .other (toString e)

/-- Carries out an action and keeps its failure as a value. -/
def attempt {α : Type} (action : IO α) : IO (Except FileError α) := do
  try
    return .ok (← action)
  catch e => return .error (systemError e)

/-- The actions on the files of the operating system. -/
def systemFiles : FileAccess IO where
  read path := do
    match ← attempt (IO.FS.readBinFile path) with
    | .error e => return .error e
    | .ok content =>
      match String.fromUTF8? content with
      | some text => return .ok text
      | none => return .error .notUtf8
  isDirectory path := do
    match ← attempt (IO.FS.realPath path) with
    | .error _ => return false
    | .ok real => real.isDir
  canonical path := do
    match ← attempt (IO.FS.realPath path) with
    | .error _ => return none
    | .ok real => return some (spelledPlace [] real.toString)
  workingDirectory := do return spelledPlace [] (← IO.currentDir).toString
  write path text := attempt (IO.FS.writeFile path text)

/-- The time of the clock. -/
def systemTime : IO Timestamp := do
  return .ofEpochSeconds (← Std.Time.Timestamp.now).toSecondsSinceUnixEpoch.val

/-- Is the variable of the environment set, and not to 0? -/
def isSwitchedOn (name : String) : IO Bool := do
  return (← IO.getEnv name).any (· != "0")

/-- Is the output in color? It is when forced to be, and else on a terminal unless refused. -/
def wantsColor : IO Bool := do
  if ← isSwitchedOn "CLICOLOR_FORCE" then return true
  else if (← IO.getEnv "NO_COLOR").isSome then return false
  else if (← IO.getEnv "CLICOLOR") = some "0" then return false
  else (← IO.getStdout).isTty

end SiteRouter.CommandLine

open SiteRouter.CommandLine

/-- The program. -/
def main (arguments : List String) : IO UInt32 := do
  let outcome ← SiteRouter.CommandLine.run systemFiles systemTime (← wantsColor) arguments
  (← IO.getStdout).putStr outcome.stdout
  (← IO.getStderr).putStr outcome.stderr
  return outcome.exitCode.toUInt32
