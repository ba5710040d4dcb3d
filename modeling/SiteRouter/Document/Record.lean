import SiteRouter.Document.Value
import SiteRouter.Keyed

/-!
# Records in documents

A record is given by name, as a table, or by position, as a list of its fields in order. Fields it
does not have are ignored in a table; fields it has may be there once only. The rules of the two
formats differ in small ways, which is why the readers here take the format as an argument.
-/

namespace SiteRouter.Document

/-- The fields of a record as a document gives them. -/
abbrev Fields := String → Option Value

/-- Does each of the names occur once at most? -/
def atMostOnce (names : List String) (entries : List (String × Value)) : Bool :=
  names.all fun name => entries.countP (·.1 == name) ≤ 1

/-- The fields of the record with those names. A list in JSON has no items beyond the last field;
TOML ignores them. -/
def fields? (format : Format) (names : List String) (v : Value) : Option Fields :=
  match v with
  | .list items =>
    if format = .json ∧ names.length < items.length then none
    else some fun name => (names.zip items).lookup name
  | v => do
    let entries ← v.table?
    -- Only the record's own names are counted; others may come as often as they like.
    if atMostOnce names entries then return fun name => entries.lookup name else none

namespace Fields

variable {α : Type}

/-- A field that has to be there. -/
def required (f : Fields) (name : String) (decode : Value → Option α) : Option α :=
  (f name).bind decode

/-- A field with a value of its own when it is left out. -/
def optional (f : Fields) (name : String) (default : α) (decode : Value → Option α) : Option α :=
  match f name with
  | none => some default
  | some v => decode v

end Fields

variable {α : Type}

/-- A value that may be null. -/
def nullable (decode : Value → Option α) : Value → Option (Option α)
  | .null => some none
  | v => (decode v).map some

/-- A list of values of one kind. -/
def listOf (decode : Value → Option α) (v : Value) : Option (List α) :=
  v.list?.bind fun items => items.mapM decode

/-- A table whose names are chosen freely and whose values are of one kind. A repeated name takes
its last value; all of them have to be right. -/
def keyedOf (decode : Value → Option α) (v : Value) : Option (Keyed α) := do
  let entries ← v.table?
  return .ofList (← entries.mapM fun (name, v) => (decode v).map (name, ·))

/-- A text in a form of its own. -/
def written (ofString? : String → Option α) (v : Value) : Option α := v.text?.bind ofString?

/-- One of a few words. The word may also be the only name of a table, with nothing under it. -/
def word (format : Format) (words : List (String × α)) : Value → Option α
  | .text s => words.lookup s
  | .table [(s, v)] =>
    match format, v with
    | .json, .null | .toml, .list [] | .toml, .table [] => words.lookup s
    | _, _ => none
  | _ => none

/-- How deep a value may be nested that stands three levels down in a JSON document and is kept
aside before it is decoded. -/
def asideLimit : Nat := 124

/-- A value that is kept aside before it is decoded has to be whole, and in JSON not too deep. -/
def canKeepAside (format : Format) (v : Value) : Bool :=
  v.isWhole && (format != .json || v.depth ≤ asideLimit)

end SiteRouter.Document
