/-!
# Separated fields

Several written forms are fields with one separator character between them: dotted addresses,
comma lists, paths. `fieldsAt` cuts a text at every separator, so that there is always one field
more than there are separators, and `joinWith` is the way back.
-/

namespace SiteRouter.Text

/-- The stretches of the text between separators. -/
def fieldsAt (sep : Char) : List Char → List (List Char)
  | [] => [[]]
  | c :: r =>
    match fieldsAt sep r with
    | [] => [[c]]
    | f :: fs => if c = sep then [] :: f :: fs else (c :: f) :: fs

/-- The fields with the separator between them. -/
def joinWith (sep : Char) : List (List Char) → List Char
  | [] => []
  | [f] => f
  | f :: g :: fs => f ++ sep :: joinWith sep (g :: fs)

/-- A text has at least one field. -/
theorem fieldsAt_ne_nil (sep : Char) (cs : List Char) : fieldsAt sep cs ≠ [] := by
  cases cs with
  | nil => simp [fieldsAt]
  | cons c r =>
    unfold fieldsAt
    split
    · simp
    · split <;> simp

end SiteRouter.Text
