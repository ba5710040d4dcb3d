/-!
# Document values

What a site or profile document holds once its text has been read, in either text format: texts,
numbers, truth values, lists, and tables that keep the order in which their entries were written.

A reader keeps a token whose form is right but which has no value, such as half of a surrogate
pair, as `broken`. Such a token does no harm in a part of the document that nobody reads, and
nothing can be decoded from it.
-/

namespace SiteRouter.Document

/-- The two text formats of documents. -/
inductive Format where
  | toml
  | json
  deriving DecidableEq, Repr

/-- A value of a document. -/
inductive Value where
  | null
  | bool (b : Bool)
  /-- A whole number that was written without a sign in a format that tells such numbers apart. -/
  | natural (n : Nat)
  /-- A whole number with a sign, or in a format that has signed numbers only. -/
  | integer (n : Int)
  /-- A number with a fraction or an exponent, as it was written. -/
  | real (written : String)
  | text (s : String)
  /-- A date, a time of day, or both, in its normal written form. -/
  | moment (written : String)
  | list (items : List Value)
  | table (entries : List (String × Value))
  | broken

namespace Value

mutual

/-- How deep lists and tables are nested in the value. -/
def depth : Value → Nat
  | .list items => depthOfList items + 1
  | .table entries => depthOfEntries entries + 1
  | _ => 0

/-- The greatest depth in a list. -/
def depthOfList : List Value → Nat
  | [] => 0
  | v :: vs => max v.depth (depthOfList vs)

/-- The greatest depth among the values of a table. -/
def depthOfEntries : List (String × Value) → Nat
  | [] => 0
  | (_, v) :: es => max v.depth (depthOfEntries es)

end

mutual

/-- Has every token in the value a value of its own? -/
def isWhole : Value → Bool
  | .broken => false
  | .list items => isWholeList items
  | .table entries => isWholeEntries entries
  | _ => true

/-- Is every value of the list whole? -/
def isWholeList : List Value → Bool
  | [] => true
  | v :: vs => v.isWhole && isWholeList vs

/-- Is every value of the table whole? -/
def isWholeEntries : List (String × Value) → Bool
  | [] => true
  | (_, v) :: es => v.isWhole && isWholeEntries es

end

/-- The text, if the value is one. -/
def text? : Value → Option String
  | .text s => some s
  | _ => none

/-- The truth value, if the value is one. -/
def bool? : Value → Option Bool
  | .bool b => some b
  | _ => none

/-- The whole number, if the value is one. -/
def int? : Value → Option Int
  | .natural n => some n
  | .integer n => some n
  | _ => none

/-- The items, if the value is a list. -/
def list? : Value → Option (List Value)
  | .list items => some items
  | _ => none

/-- The entries, if the value is a table. A date or time counts as a table with one entry. -/
def table? : Value → Option (List (String × Value))
  | .table entries => some entries
  | .moment written => some [("$__toml_private_datetime", .text written)]
  | _ => none

end Value

end SiteRouter.Document
