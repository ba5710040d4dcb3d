/-!
# Notes

What happens on the way to a result is told in notes, each at a level. A note never changes the
result; who reads the notes decides from which level on they are worth showing.
-/

namespace SiteRouter

/-- How important a note is. -/
inductive Level where
  | debug
  | info
  | warn
  | error
  deriving DecidableEq, Repr

namespace Level

/-- The levels in ascending order. -/
def rank : Level → Nat
  | .debug => 0
  | .info => 1
  | .warn => 2
  | .error => 3

/-- The word for the level. -/
def word : Level → String
  | .debug => "debug"
  | .info => "info"
  | .warn => "warn"
  | .error => "error"

end Level

/-- A message at a level. -/
structure Note where
  level : Level
  text : String
  deriving DecidableEq, Repr

namespace Note

/-- A note about a step. -/
def debug (text : String) : Note := ⟨.debug, text⟩

/-- A note about a result. -/
def info (text : String) : Note := ⟨.info, text⟩

/-- A note about something that may not be what was meant. -/
def warn (text : String) : Note := ⟨.warn, text⟩

end Note

/-- The texts of the warnings among the notes. -/
def warnings (notes : List Note) : List String :=
  (notes.filter (·.level = .warn)).map Note.text

end SiteRouter
