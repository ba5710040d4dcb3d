import SiteRouter.Files.Access

/-!
# Trees of files

A tree of directories, files and symbolic links as a value. A path is walked name by name; a link
on the way is followed, forty times at most, and `..` leads to the directory that has been reached,
not to the one that was spelled. A walk that may create what it does not find treats a slash behind
the last name as a wish for a directory, whatever stands there. `FileTree.access` gives the
program's actions on such a tree.
-/

namespace SiteRouter

/-- What can stand at a place. -/
inductive FileEntry where
  | directory
  | file (content : ByteArray)
  | link (target : String)

/-- A tree of files. The root is always a directory. -/
structure FileTree where
  entries : List (Place × FileEntry)
  /-- Where paths that do not start at the root start. -/
  workingDirectory : Place

/-- Where a walk ends. -/
inductive Reached where
  | directory (place : Place)
  | file (place : Place) (content : ByteArray)
  /-- Nothing is there, but the directory above is. -/
  | vacant (place : Place)
  | failed (error : FileError)

namespace FileTree

/-- How many links are followed on one walk. -/
def linkLimit : Nat := 40

/-- How many bytes a name may have. -/
def nameLimit : Nat := 255

/-- How many bytes a path may have. -/
def pathLimit : Nat := 4095

/-- What stands at a place. -/
def entry? (t : FileTree) (place : Place) : Option FileEntry := t.entries.lookup place

/-- The tree with an entry at a place, instead of the one that was there. -/
def put (t : FileTree) (place : Place) (entry : FileEntry) : FileTree :=
  if (t.entry? place).isSome then
    { t with entries := t.entries.map fun (p, e) => if p = place then (p, entry) else (p, e) }
  else { t with entries := t.entries ++ [(place, entry)] }

/-- Walks the names from a directory on, to look at what is there or, if `creating`, to make it a
file. A path that ends in a slash has empty names at its end. -/
def walk (t : FileTree) (creating : Bool) (links : Nat) (here : Place) (names : List String) :
    Reached :=
  match names with
  | [] => .directory here
  | name :: rest =>
    if name = "" ∨ name = "." then t.walk creating links here rest
    else if name = ".." then t.walk creating links here.dropLast rest
    -- The slash is judged before the name is looked up.
    else if creating ∧ rest ≠ [] ∧ rest.all (· = "") then .failed .isADirectory
    else if nameLimit < name.utf8ByteSize then .failed .nameTooLong
    else
      match t.entry? (here ++ [name]) with
      | none => if rest.all (· = "") then .vacant (here ++ [name]) else .failed .notFound
      | some .directory => t.walk creating links (here ++ [name]) rest
      | some (.file content) =>
        if rest = [] then .file (here ++ [name]) content else .failed .notADirectory
      | some (.link target) =>
        match links with
        | 0 => .failed .tooManyLinks
        | links + 1 =>
          -- The target stands in the place of the name; it may start at the root.
          t.walk creating links (if isAbsolute target then [] else here)
            (pathComponents target ++ rest)
termination_by (links, names.length)

/-- The walk along a path. -/
def walkPath (t : FileTree) (creating : Bool) (path : String) : Reached :=
  if path = "" then .failed .notFound
  else if path.contains '\x00' then .failed .nulInPath
  else
    t.walk creating linkLimit (if isAbsolute path then [] else t.workingDirectory)
      (pathComponents path)

/-- Where a path leads that is given as a whole, and so must not be too long. -/
def follow (t : FileTree) (creating : Bool) (path : String) : Reached :=
  if pathLimit < path.utf8ByteSize ∧ !path.contains '\x00' then .failed .nameTooLong
  else t.walkPath creating path

/-- The text of the file that a path leads to. -/
def read (t : FileTree) (path : String) : Except FileError String :=
  match t.follow false path with
  | .file _ content =>
    match String.fromUTF8? content with
    | some text => .ok text
    | none => .error .notUtf8
  | .directory _ => .error .isADirectory
  | .vacant _ => .error .notFound
  | .failed e => .error e

/-- Does the path lead to a directory? -/
def isDirectory (t : FileTree) (path : String) : Bool :=
  match t.follow false path with
  | .directory _ => true
  | _ => false

/-- The place of what the path leads to. The names are resolved one at a time, so that a path of any
length will do. -/
def canonical (t : FileTree) (path : String) : Option Place :=
  match t.walkPath false path with
  | .directory place | .file place _ => some place
  | _ => none

/-- The tree after a text has been written, or the reason why it cannot be. -/
def write (t : FileTree) (path text : String) : Except FileError FileTree :=
  match t.follow true path with
  | .file place _ | .vacant place => .ok (t.put place (.file text.toUTF8))
  | .directory _ => .error .isADirectory
  | .failed e => .error e

/-- The program's actions on a tree of files. -/
def access : FileAccess (StateM FileTree) where
  read path := do return (← get).read path
  isDirectory path := do return (← get).isDirectory path
  canonical path := do return (← get).canonical path
  workingDirectory := do return (← get).workingDirectory
  write path text := do
    match (← get).write path text with
    | .ok t => set t; return .ok ()
    | .error e => return .error e

end FileTree

end SiteRouter
