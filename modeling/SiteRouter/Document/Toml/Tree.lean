import SiteRouter.Document.Value

/-!
# Tables under construction

Headers and dotted keys may come back to a table that was begun earlier, and the rules of TOML say
when they may. A table is *implicit* as long as only its children have been named, and *dotted*
when a dotted key made it. `assign` puts a value under a dotted key; `openTable` and `openElement`
are what the two kinds of headers do.
-/

namespace SiteRouter.Document.Toml

/-- A part of the document while it is being read. -/
inductive Node where
  | leaf (value : Value)
  | table (implicit dotted : Bool) (entries : List (String × Node))
  /-- Tables that headers in double brackets have made, each with its entries. -/
  | tables (elements : List (List (String × Node)))

/-- The entries of one table. -/
abbrev Entries := List (String × Node)

namespace Node

mutual

/-- The value that has been built. -/
def toValue : Node → Value
  | .leaf value => value
  | .table _ _ entries => .table (valuesOf entries)
  | .tables elements => .list (tablesOf elements)

/-- The values of the entries. -/
def valuesOf : List (String × Node) → List (String × Value)
  | [] => []
  | (name, node) :: es => (name, node.toValue) :: valuesOf es

/-- The tables with those entries. -/
def tablesOf : List (List (String × Node)) → List Value
  | [] => []
  | entries :: rest => .table (valuesOf entries) :: tablesOf rest

end

end Node

namespace Entries

/-- The node with that name. -/
def find? (entries : Entries) (name : String) : Option Node := entries.lookup name

/-- The entries with a node in the place of the one of that name, or after all others if there is
none of that name. -/
def put : Entries → String → Node → Entries
  | [], name, node => [(name, node)]
  | (n, old) :: es, name, node =>
    if n = name then (n, node) :: es else (n, old) :: put es name node

/-- The entries without the one of that name. -/
def remove (entries : Entries) (name : String) : Entries := entries.filter (·.1 != name)

/-- Walks down a path of names and changes the entries it ends at. Tables that are missing on the
way are made, implicit ones; the walk goes through the last of the tables that double brackets have
made. A dotted key may not walk through a table that has had a header of its own. The change is
told whether the table it is made to is dotted. -/
def within (byKey : Bool) : List String → (Bool → Entries → Option Entries) → Bool → Entries →
    Option Entries
  | [], change, dotted, entries => change dotted entries
  | name :: path, change, _, entries =>
    match entries.find? name with
    | none => do
      let inner ← within byKey path change byKey []
      return entries.put name (.table true byKey inner)
    | some (.table implicit dotted inner) => do
      if byKey && !implicit then none
      let inner ← within byKey path change dotted inner
      return entries.put name (.table implicit dotted inner)
    | some (.tables elements) => do
      let last ← elements.getLast?
      let last ← within byKey path change false last
      return entries.put name (.tables (elements.dropLast ++ [last]))
    | some (.leaf _) => none

/-- Puts a value under a dotted key. The name must be new, and a key with dots may only add to a
table that dotted keys have made. -/
def assign (entries : Entries) (key : List String) (value : Value) : Option Entries :=
  match key.getLast? with
  | none => none
  | some name =>
    let path := key.dropLast
    within true path (fun dotted inner =>
      -- A bare name goes into the table of the header, a dotted key into one of its own kind.
      if dotted = path.isEmpty then none
      else if (inner.find? name).isSome then none
      else some (inner.put name (.leaf value))) false entries

/-- The entries after a header in single brackets, with the entries that the table has had so far:
it may have been implicit, and is taken out until it is complete. -/
def openTable (entries : Entries) (key : List String) : Option (Entries × Entries) :=
  match key.getLast? with
  | none => none
  | some name => do
    let path := key.dropLast
    let without ← within false path (fun _ inner => some (inner.remove name)) false entries
    match begunAt key entries with
    | none => return (without, [])
    -- Only its children have had headers so far, so this one may still come.
    | some (.table true false inner) => return (without, inner)
    | some _ => none
where
  /-- The node at the end of the path, if there is one. -/
  begunAt : List String → Entries → Option Node
    | [], _ => none
    | [name], entries => entries.find? name
    | name :: path, entries =>
      match entries.find? name with
      | some (.table _ _ inner) => begunAt path inner
      | some (.tables elements) => elements.getLast?.bind (begunAt path)
      | _ => none

/-- The entries after a header in double brackets, which starts or continues a list of tables. -/
def openElement (entries : Entries) (key : List String) : Option Entries :=
  match key.getLast? with
  | none => none
  | some name =>
    within false key.dropLast (fun _ inner =>
      match inner.find? name with
      | none => some (inner.put name (.tables []))
      | some (.tables _) => some inner
      | some _ => none) false entries

/-- Puts back the table that a header has opened, now that its entries are complete. -/
def close (entries : Entries) (key : List String) (isElement : Bool) (complete : Entries) :
    Option Entries :=
  match key.getLast? with
  | none => some complete
  | some name =>
    within false key.dropLast (fun _ inner =>
      match inner.find? name, isElement with
      | none, false => some (inner.put name (.table false false complete))
      | some (.tables elements), true =>
        some (inner.put name (.tables (elements ++ [complete])))
      | _, _ => none) false entries

end Entries

end SiteRouter.Document.Toml
