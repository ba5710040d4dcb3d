import SiteRouter.Document.Toml.Number
import SiteRouter.Document.Toml.Tree

/-!
# TOML documents

The reader takes the texts of TOML 1.0 and keeps entries in the order in which they are first
named. A document is read line by line: an assignment goes into the table whose header came last,
and a header closes the table before it.
-/

namespace SiteRouter.Document.Toml

/-- The entries that the assignments of an inline table make. -/
def inlineTable (assignments : List (List String × Value)) : Option Value :=
  (assignments.foldlM (fun (entries : Entries) (key, value) => entries.assign key value) []).map
    fun entries => .table (Node.valuesOf entries)

mutual

/-- A value. The level counts the lists and inline tables around it. -/
def readValue : Nat → Nat → Reader Value
  | 0, _, _ => none
  | fuel + 1, level, cs =>
    match cs with
    | '"' :: r => (readString ('"' :: r)).map fun (s, r) => (.text s, r)
    | '\x27' :: r => (readString ('\x27' :: r)).map fun (s, r) => (.text s, r)
    | '[' :: r =>
      if level + 1 < nestingLimit then
        (readItems fuel (level + 1) r).map fun (vs, r) => (.list vs, r)
      else none
    | '\x7b' :: r =>
      if level + 1 < nestingLimit then do
        match skipSpace r with
        | '\x7d' :: r => return (← inlineTable [], r)
        | r =>
          let (assignments, r) ← readAssignments fuel (level + 1) r
          return (← inlineTable assignments, r)
      else none
    | 't' :: 'r' :: 'u' :: 'e' :: r => some (.bool true, r)
    | 'f' :: 'a' :: 'l' :: 's' :: 'e' :: r => some (.bool false, r)
    | r => readNumber r

/-- The items of a list and its closing bracket. Line ends and comments may stand between them,
and a comma after the last. -/
def readItems : Nat → Nat → Reader (List Value)
  | 0, _, _ => none
  | fuel + 1, level, cs => do
    match ← skipLines cs.length cs with
    | ']' :: r => return ([], r)
    | r =>
      let (v, r) ← readValue fuel level r
      match ← skipLines r.length r with
      | ',' :: r =>
        let (vs, r) ← readItems fuel level r
        return (v :: vs, r)
      | ']' :: r => return ([v], r)
      | _ => none

/-- The assignments of an inline table that has one at least, and its closing brace. -/
def readAssignments : Nat → Nat → Reader (List (List String × Value))
  | 0, _, _ => none
  | fuel + 1, level, cs => do
    let (key, r) ← readKey cs
    let (v, r) ← readValue fuel level (skipSpace (← afterChar? '=' r))
    match skipSpace r with
    | ',' :: r =>
      let (rest, r) ← readAssignments fuel level r
      return ((key, v) :: rest, r)
    | '\x7d' :: r => return ([(key, v)], r)
    | _ => none

end

/-- What has been read of a document: the tables that are complete, and the table under the last
header with its key. The key is empty before the first header. -/
structure Progress where
  complete : Entries
  key : List String
  isElement : Bool
  current : Entries

namespace Progress

/-- Nothing read yet. -/
def start : Progress := ⟨[], [], false, []⟩

/-- All entries, once the text is at its end. -/
def finish (p : Progress) : Option Entries := p.complete.close p.key p.isElement p.current

/-- A header in single brackets. -/
def header (p : Progress) (key : List String) : Option Progress := do
  let (complete, begun) ← (← p.finish).openTable key
  return ⟨complete, key, false, begun⟩

/-- A header in double brackets. -/
def element (p : Progress) (key : List String) : Option Progress := do
  return ⟨← (← p.finish).openElement key, key, true, []⟩

/-- An assignment. -/
def assign (p : Progress) (key : List String) (value : Value) : Option Progress :=
  (p.current.assign key value).map fun current => { p with current }

end Progress

/-- Reads the lines of a document. -/
def readLines : Nat → Progress → List Char → Option Progress
  | 0, _, _ => none
  | fuel + 1, p, cs =>
    match skipSpace cs with
    | [] => some p
    | '#' :: r => do readLines fuel p (← endLine ('#' :: r))
    | '\n' :: r => readLines fuel p r
    | '\r' :: '\n' :: r => readLines fuel p r
    | '[' :: '[' :: r => do
      let (key, r) ← readKey r
      let r ← afterChar? ']' (← afterChar? ']' r)
      readLines fuel (← p.element key) (← endLine r)
    | '[' :: r => do
      let (key, r) ← readKey r
      let r ← afterChar? ']' r
      readLines fuel (← p.header key) (← endLine r)
    | r => do
      let (key, r) ← readKey r
      let r := skipSpace (← afterChar? '=' r)
      let (v, r) ← readValue (2 * r.length + 2) 0 r
      readLines fuel (← p.assign key v) (← endLine r)

/-- Reads a whole document, which is always a table. A byte order mark may stand in front. -/
def read (s : String) : Option Value := do
  let cs := match s.toList with
    | '\ufeff' :: r => r
    | cs => cs
  let p ← readLines (cs.length + 1) .start cs
  return .table (Node.valuesOf (← p.finish))

end SiteRouter.Document.Toml
