/-!
# Quoted argument values

A value is written on the device console either bare or between double quotes. Bare text may hold
letters, digits and a few marks of punctuation, and has at least one character; everything else is
quoted, with a backslash before the four characters that mean something inside quotes and letters
for the three line controls. `quote` chooses the form, `unquote` reads either form back.
-/

namespace SiteRouter.Script

/-- May the character stand in a value that is not quoted? -/
def isBare (c : Char) : Bool :=
  c.isAlphanum || ['.', '_', '-', ':', '/', ',', '!', '@', '+', '*'].contains c

/-- The characters with an escape of their own, each with the letter that follows the backslash. -/
def escapes : List (Char × Char) :=
  [('\\', '\\'), ('"', '"'), ('$', '$'), ('?', '?'), ('\n', 'n'), ('\r', 'r'), ('\t', 't')]

/-- One character as it stands between quotes. -/
def escape (c : Char) : List Char :=
  match escapes.lookup c with
  | some e => ['\\', e]
  | none => [c]

/-- The value as it is written after the `=` of an argument. -/
def quoteChars (cs : List Char) : List Char :=
  if cs ≠ [] ∧ cs.all isBare then cs
  else '"' :: cs.flatMap escape ++ ['"']

/-- The value as it is written after the `=` of an argument. -/
def quote (value : String) : String := String.ofList (quoteChars value.toList)

/-- The character that an escape letter stands for. -/
def unescape (e : Char) : Option Char :=
  (escapes.find? (·.2 == e)).map (·.1)

/-- Reads the inside of a quoted value up to its closing quote, which has to end the text. -/
def unquoteBody : List Char → Option (List Char)
  | [] => none
  | '\\' :: e :: r => do return (← unescape e) :: (← unquoteBody r)
  | c :: r =>
    if c = '"' then (if r = [] then some [] else none)
    else (unquoteBody r).map (c :: ·)

/-- Reads a written value: a text that opens with a quote is unwrapped and its escapes are undone,
any other text stands for itself. -/
def unquoteChars : List Char → Option (List Char)
  | '"' :: r => unquoteBody r
  | cs => some cs

/-- Reads a written value back. -/
def unquote (written : String) : Option String :=
  (unquoteChars written.toList).map String.ofList

end SiteRouter.Script
