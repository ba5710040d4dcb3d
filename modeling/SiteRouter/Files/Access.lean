import SiteRouter.Files.Error
import SiteRouter.Text.Fields

/-!
# Access to files

What the program does with files, as a record of actions in any monad: the same program runs on the
files of the operating system and on a tree of files that is a value. On top of the actions stands
the guard that keeps a script from being written over the documents it was made from.
-/

namespace SiteRouter

/-- A place in a tree of files: the names from the root down. -/
abbrev Place := List String

/-- The actions on files that the program needs. -/
structure FileAccess (m : Type → Type) where
  /-- The text of a file. -/
  read : String → m (Except FileError String)
  /-- Does the path lead to a directory? -/
  isDirectory : String → m Bool
  /-- Where the path leads, if there is something; no name on the way there is a link. -/
  canonical : String → m (Option Place)
  /-- Where paths that do not start at the root start. -/
  workingDirectory : m Place
  /-- Makes the text the content of a file, which is created if need be. -/
  write : String → String → m (Except FileError Unit)

/-- The components of a path. -/
def pathComponents (path : String) : List String :=
  (Text.fieldsAt '/' path.toList).map String.ofList

/-- Does the path start at the root? -/
def isAbsolute (path : String) : Bool := path.toList.head? == some '/'

/-- The names from the root down that a path spells out; `..` is kept as it is. -/
def spelledPlace (workingDirectory : Place) (path : String) : Place :=
  (if isAbsolute path then [] else workingDirectory) ++
    (pathComponents path).filter fun name => name != "" && name != "."

/-- The path from the root to a place. -/
def Place.path (p : Place) : String := "/" ++ "/".intercalate p

namespace FileAccess

variable {m : Type → Type} [Monad m]

/-- Where a path leads, whether or not there is something: what exists has a place without links,
and what does not exist yet is placed in its directory. -/
def resolve (files : FileAccess m) (path : String) : m Place := do
  match ← files.canonical path with
  | some place => return place
  | none =>
    let spelled := spelledPlace (← files.workingDirectory) path
    match spelled.getLast? with
    | none => return spelled
    | some name =>
      -- A path that ends in `..` names no file in a directory.
      if name = ".." then return spelled
      else
        match ← files.canonical (Place.path spelled.dropLast) with
        | some directory => return directory ++ [name]
        | none => return spelled

/-- Why a script must not be written. -/
inductive Refusal where
  | isDirectory (script : String)
  | overwrites (role source : String)
  deriving DecidableEq, Repr

/-- The refusal in words. -/
def Refusal.message : Refusal → String
  | .isDirectory script => s!"script output {script} is a directory"
  | .overwrites role source => s!"refusing to overwrite {role} {source} with the compiled script"

/-- Refuses a script that would be written over the site or the profile it was made from. -/
def guardScript (files : FileAccess m) (script site : String) (profile : Option String) :
    m (Option Refusal) := do
  if ← files.isDirectory script then return some (.isDirectory script)
  let target ← files.resolve script
  if (← files.resolve site) = target then return some (.overwrites "model" site)
  match profile with
  | none => return none
  | some profile =>
    if (← files.resolve profile) = target then return some (.overwrites "profile" profile)
    return none

end FileAccess

end SiteRouter
