import SiteRouter.Text.Digits

/-!
# TOML white space, strings and keys

The lexical part of TOML: spaces, line ends and comments, the four kinds of strings, and keys with
their dots. Every reader takes the text from where it stands and gives what it has read together
with the text that is left, or nothing when the text there is malformed.
-/

namespace SiteRouter.Document.Toml

/-- What a reader gives: the thing it has read and the text that is left. -/
abbrev Reader (α : Type) := List Char → Option (α × List Char)

/-- The text from its first character that is neither a space nor a tab. -/
def skipSpace (cs : List Char) : List Char := cs.dropWhile fun c => c = ' ' || c = '\t'

/-- What follows a line end: a line feed, with or without a carriage return in front. -/
def afterNewline? : List Char → Option (List Char)
  | '\n' :: r => some r
  | '\r' :: '\n' :: r => some r
  | _ => none

/-- May the character stand in a comment or a string? Controls but the tab may not. -/
def isPrintable (c : Char) : Bool := c = '\t' || (' ' ≤ c && c != '\x7f')

/-- The text after a comment, if one starts here; its line end is left. -/
def skipComment : List Char → List Char
  | '#' :: r => r.dropWhile isPrintable
  | cs => cs

/-- The text after the rest of a line, which may hold a comment and ends with the text if not with
a line end. -/
def endLine (cs : List Char) : Option (List Char) :=
  match skipComment (skipSpace cs) with
  | [] => some []
  | r => afterNewline? r

/-- The text after any spaces, comments and line ends. A comment needs its line end. -/
def skipLines : Nat → List Char → Option (List Char)
  | 0, cs => some cs
  | fuel + 1, cs =>
    match skipSpace cs with
    | '#' :: r =>
      match afterNewline? (r.dropWhile isPrintable) with
      | some r => skipLines fuel r
      | none => none
    | r =>
      match afterNewline? r with
      | some r => skipLines fuel r
      | none => some r

/-- The character with that code point, unless it is a surrogate or too large. -/
def scalar? (n : Nat) : Option Char :=
  if n < 0xd800 ∨ (0xe000 ≤ n ∧ n < 0x110000) then some (Char.ofNat n) else none

/-- An escape after its backslash. -/
def readEscape : Reader Char
  | 'b' :: r => some ('\x08', r)
  | 'f' :: r => some ('\x0c', r)
  | 'n' :: r => some ('\n', r)
  | 'r' :: r => some ('\r', r)
  | 't' :: r => some ('\t', r)
  | '"' :: r => some ('"', r)
  | '\\' :: r => some ('\\', r)
  | 'u' :: r => do return (← scalar? (← Text.number? 16 4 4 (r.take 4)), r.drop 4)
  | 'U' :: r => do return (← scalar? (← Text.number? 16 8 8 (r.take 8)), r.drop 8)
  | _ => none

/-- The rest of a string on one line after its opening quote, given the characters so far in
reverse. Only a string in double quotes has escapes. -/
def readLineString (quote : Char) : Nat → List Char → Reader String
  | 0, _, _ => none
  | fuel + 1, acc, cs =>
    match cs with
    | [] => none
    | c :: r =>
      if c = quote then some (String.ofList acc.reverse, r)
      else if c = '\\' ∧ quote = '"' then
        match readEscape r with
        | some (e, r) => readLineString quote fuel (e :: acc) r
        | none => none
      else if isPrintable c then readLineString quote fuel (c :: acc) r
      else none

/-- What follows a backslash that ends its line: everything up to the next character that is no
white space. -/
def afterContinuation? (cs : List Char) : Option (List Char) :=
  (afterNewline? (skipSpace cs)).bind fun r => skipBlankLines r.length r
where
  /-- The text after any spaces and line ends. -/
  skipBlankLines : Nat → List Char → Option (List Char)
    | 0, cs => some cs
    | fuel + 1, cs =>
      match afterNewline? (skipSpace cs) with
      | some r => skipBlankLines fuel r
      | none => some (skipSpace cs)

/-- The rest of a string over several lines after its opening quotes, given the characters so far
in reverse. One or two quotes may stand right before the three that close it. -/
def readBlockString (quote : Char) : Nat → List Char → Reader String
  | 0, _, _ => none
  | fuel + 1, acc, cs =>
    match cs with
    | [] => none
    | c :: r =>
      if c = quote then
        let run := (cs.takeWhile (· = quote)).length
        if run < 3 then readBlockString quote fuel (c :: acc) r
        else
          let kept := min run 5 - 3
          some (String.ofList (acc.reverse ++ List.replicate kept quote), cs.drop (kept + 3))
      else if c = '\\' ∧ quote = '"' then
        match afterContinuation? r with
        | some r => readBlockString quote fuel acc r
        | none =>
          match readEscape r with
          | some (e, r) => readBlockString quote fuel (e :: acc) r
          | none => none
      else
        match afterNewline? cs with
        | some r => readBlockString quote fuel ('\n' :: acc) r
        | none => if isPrintable c then readBlockString quote fuel (c :: acc) r else none

/-- A string that has to close on its line. -/
def readQuoted : Reader String
  | '"' :: r => readLineString '"' (r.length + 1) [] r
  | '\x27' :: r => readLineString '\x27' (r.length + 1) [] r
  | _ => none

/-- A string of any of the four kinds. A line end right after three opening quotes is dropped. -/
def readString : Reader String
  | '"' :: '"' :: '"' :: r => block '"' r
  | '\x27' :: '\x27' :: '\x27' :: r => block '\x27' r
  | cs => readQuoted cs
where
  /-- A string over several lines after its opening quotes. -/
  block (quote : Char) (r : List Char) : Option (String × List Char) :=
    let r := (afterNewline? r).getD r
    readBlockString quote (r.length + 1) [] r

/-- May the character stand in a key without quotes? -/
def isBareKey (c : Char) : Bool := c.isAlphanum || c = '-' || c = '_'

/-- One part of a key. -/
def readKeyPart : Reader String
  | '"' :: r => readQuoted ('"' :: r)
  | '\x27' :: r => readQuoted ('\x27' :: r)
  | cs =>
    let (bare, r) := cs.span isBareKey
    if bare = [] then none else some (String.ofList bare, r)

/-- The parts of a key with dots between them; spaces may stand around each part. -/
def readKeyParts : Nat → Reader (List String)
  | 0, _ => none
  | fuel + 1, cs => do
    let (part, r) ← readKeyPart (skipSpace cs)
    match skipSpace r with
    | '.' :: r =>
      let (parts, r) ← readKeyParts fuel r
      return (part :: parts, r)
    | r => return ([part], r)

/-- How deep values may be nested, and how many parts a key may have: less than this. -/
def nestingLimit : Nat := 80

/-- A key, which has fewer parts than the nesting limit. -/
def readKey : Reader (List String) := fun cs => do
  let (parts, r) ← readKeyParts (cs.length + 1) cs
  if parts.length < nestingLimit then return (parts, r) else none

end SiteRouter.Document.Toml
