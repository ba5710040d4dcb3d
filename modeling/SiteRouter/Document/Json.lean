import SiteRouter.Document.Decimal
import SiteRouter.Document.Value

/-!
# JSON documents

The reader takes exactly the texts of the JSON grammar and keeps entries in the order in which they
are written, repeated names included. A number that no double can hold, and a text or a name with
half of a surrogate pair, are read as `broken`. The printer lays a value out over lines, two spaces
to a level.
-/

namespace SiteRouter.Document.Json

open Text (ofDigits isDigitIn)

/-- The text from its first character that is not white space. -/
def skipSpace (cs : List Char) : List Char :=
  cs.dropWhile fun c => c = ' ' || c = '\n' || c = '\r' || c = '\t'

/-- What follows the word, if the text starts with it. -/
def after? : List Char → List Char → Option (List Char)
  | [], cs => some cs
  | w :: ws, c :: cs => if w = c then after? ws cs else none
  | _ :: _, [] => none

/-- A run of one digit at least. -/
def readDigits (cs : List Char) : Option (List Char × List Char) :=
  let (digits, r) := cs.span isDigit
  if digits = [] then none else some (digits, r)

/-- The whole part of a number: a zero alone, or digits that start with another. -/
def readWhole : List Char → Option (List Char × List Char)
  | '0' :: r => if r.head?.any isDigit then none else some (['0'], r)
  | cs => readDigits cs

/-- A fraction, if there is one. -/
def readFraction : List Char → Option (Option (List Char) × List Char)
  | '.' :: r => (readDigits r).map fun (digits, r) => (some digits, r)
  | cs => some (none, cs)

/-- An exponent, if there is one. -/
def readExponent : List Char → Option (Option Int × List Char)
  | e :: r =>
    if e = 'e' || e = 'E' then
      let (negative, r) := match r with
        | '-' :: r => (true, r)
        | '+' :: r => (false, r)
        | r => (false, r)
      (readDigits r).map fun (digits, r) =>
        let n : Int := ofDigits 10 digits
        (some (if negative then -n else n), r)
    else some (none, e :: r)
  | [] => some (none, [])

/-- Adds digits to a number as long as it stays below the bound. Gives the number and the digits
that have not been added. -/
def addDigits (bound : Nat) : Nat → List Char → Nat × List Char
  | n, [] => (n, [])
  | n, c :: cs =>
    let n' := n * 10 + (Text.digitValue? 10 c).getD 0
    if n' < bound then addDigits bound n' cs else (n, c :: cs)

/-- A number by its leading digits, as many as fit into 64 bits, and a power of ten. A digit before
the point that is left out counts in the power all the same; the digits behind the point are tried
even then. -/
def leading (whole fraction : List Char) (exponent : Int) : Nat × Int :=
  let (n, restOfWhole) := addDigits 0x10000000000000000 0 whole
  let (n, restOfFraction) := addDigits 0x10000000000000000 n fraction
  (n, restOfWhole.length - (fraction.length - restOfFraction.length : Int) + exponent)

/-- A number is whole when it has neither fraction nor exponent, is no negative zero and fits into
64 bits; any other number is real, or broken when it is too large: the double is computed from the
leading digits and a power of ten, and must not be infinite. -/
def numberValue (negative : Bool) (whole : List Char) (fraction : Option (List Char))
    (exponent : Option Int) (written : List Char) : Value :=
  let n := ofDigits 10 whole
  -- A fraction of zeros makes a number real all the same.
  let isWhole := fraction.isNone && exponent.isNone
  if isWhole && !negative && n < 0x10000000000000000 then .natural n
  else if isWhole && negative && n ≠ 0 && n ≤ 0x8000000000000000 then .integer (-n)
  else
    let (significand, power) := leading whole (fraction.getD []) (exponent.getD 0)
    if overflowsProduct significand power then .broken else .real (String.ofList written)

/-- A number. -/
def readNumber (cs : List Char) : Option (Value × List Char) := do
  let (negative, r) := match cs with
    | '-' :: r => (true, r)
    | r => (false, r)
  let (whole, r) ← readWhole r
  let (fraction, r) ← readFraction r
  let (exponent, r) ← readExponent r
  let written := cs.take (cs.length - r.length)
  return (numberValue negative whole fraction exponent written, r)

/-- Four hexadecimal digits. -/
def readUnit : List Char → Option (Nat × List Char)
  | a :: b :: c :: d :: r => (Text.number? 16 4 4 [a, b, c, d]).map (·, r)
  | _ => none

/-- The character that a one-letter escape stands for. -/
def escaped? : Char → Option Char
  | '"' => some '"'
  | '\\' => some '\\'
  | '/' => some '/'
  | 'b' => some '\x08'
  | 'f' => some '\x0c'
  | 'n' => some '\n'
  | 'r' => some '\r'
  | 't' => some '\t'
  | _ => none

/-- The character of a surrogate pair. -/
def ofSurrogates (high low : Nat) : Char :=
  Char.ofNat (0x10000 + (high - 0xd800) * 0x400 + (low - 0xdc00))

/-- One piece of a text: a character, or `none` for half of a surrogate pair. The outer result is
`none` when the text ends here or is malformed. -/
def readPiece : List Char → Option (Option Char × List Char)
  | '\\' :: 'u' :: r => do
    let (unit, r) ← readUnit r
    if 0xd800 ≤ unit ∧ unit < 0xdc00 then
      -- The first half of a pair: without the second one right behind it, it stands for nothing.
      match r with
      | '\\' :: 'u' :: r' => do
        let (low, r') ← readUnit r'
        if 0xdc00 ≤ low ∧ low < 0xe000 then return (some (ofSurrogates unit low), r')
        else return (none, r)
      | _ => return (none, r)
    else if 0xdc00 ≤ unit ∧ unit < 0xe000 then return (none, r)
    else return (some (Char.ofNat unit), r)
  | '\\' :: e :: r => (escaped? e).map fun c => (some c, r)
  | c :: r => if c = '"' ∨ c = '\\' ∨ c < ' ' then none else some (some c, r)
  | [] => none

/-- The rest of a text after its opening quote, given the pieces so far in reverse; the text is
`none` when it holds half of a surrogate pair. -/
def readTextAfter : Nat → Bool → List Char → List Char → Option (Option String × List Char)
  | _, whole, acc, '"' :: r =>
    some (if whole then some (String.ofList acc.reverse) else none, r)
  | 0, _, _, _ => none
  | fuel + 1, whole, acc, cs =>
    match readPiece cs with
    | some (some c, r) => readTextAfter fuel whole (c :: acc) r
    | some (none, r) => readTextAfter fuel false acc r
    | none => none

/-- A text with its quotes. -/
def readText : List Char → Option (Option String × List Char)
  | '"' :: r => readTextAfter r.length true [] r
  | _ => none

/-- The table of those entries, which is broken when one of the names is. -/
def tableOf (entries : List (Option String × Value)) : Value :=
  match entries.mapM fun (name, v) => name.map fun n => (n, v) with
  | some entries => .table entries
  | none => .broken

mutual

/-- A value with the white space in front of it. -/
def readValue : Nat → List Char → Option (Value × List Char)
  | 0, _ => none
  | fuel + 1, cs =>
    match skipSpace cs with
    | '\x7b' :: r =>
      match skipSpace r with
      | '\x7d' :: r => some (.table [], r)
      | r => (readEntries fuel r).map fun (entries, r) => (tableOf entries, r)
    | '[' :: r =>
      match skipSpace r with
      | ']' :: r => some (.list [], r)
      | r => (readItems fuel r).map fun (items, r) => (.list items, r)
    | '"' :: r =>
      (readText ('"' :: r)).map fun (s, r) => (s.elim .broken .text, r)
    | 'n' :: r => (after? ['u', 'l', 'l'] r).map (Value.null, ·)
    | 't' :: r => (after? ['r', 'u', 'e'] r).map (Value.bool true, ·)
    | 'f' :: r => (after? ['a', 'l', 's', 'e'] r).map (Value.bool false, ·)
    | r => readNumber r

/-- The items of a list that has one at least, with its closing bracket. -/
def readItems : Nat → List Char → Option (List Value × List Char)
  | 0, _ => none
  | fuel + 1, cs => do
    let (v, r) ← readValue fuel cs
    match skipSpace r with
    | ',' :: r =>
      let (vs, r) ← readItems fuel r
      return (v :: vs, r)
    | ']' :: r => return ([v], r)
    | _ => none

/-- The entries of a table that has one at least, with its closing brace. -/
def readEntries : Nat → List Char → Option (List (Option String × Value) × List Char)
  | 0, _ => none
  | fuel + 1, cs => do
    let (name, r) ← readText (skipSpace cs)
    match skipSpace r with
    | ':' :: r =>
      let (v, r) ← readValue fuel r
      match skipSpace r with
      | ',' :: r =>
        let (es, r) ← readEntries fuel r
        return ((name, v) :: es, r)
      | '\x7d' :: r => return ([(name, v)], r)
      | _ => none
    | _ => none

end

/-- Reads a whole document; nothing but white space may follow its value. -/
def read (s : String) : Option Value := do
  let cs := s.toList
  let (v, r) ← readValue (2 * cs.length + 2) cs
  if skipSpace r = [] then return v else none

/-- One character of a printed text. -/
def printChar (c : Char) : List Char :=
  match c with
  | '"' => ['\\', '"']
  | '\\' => ['\\', '\\']
  | '\n' => ['\\', 'n']
  | '\r' => ['\\', 'r']
  | '\t' => ['\\', 't']
  | '\x08' => ['\\', 'b']
  | '\x0c' => ['\\', 'f']
  | _ =>
    if c < ' ' then
      ['\\', 'u', '0', '0'] ++ (if c.toNat < 16 then ['0'] else []) ++ Nat.toDigits 16 c.toNat
    else [c]

/-- A text with quotes and escapes. -/
def printText (s : String) : String :=
  String.ofList ('"' :: s.toList.flatMap printChar ++ ['"'])

/-- The start of a line that is nested that deep. -/
def newLine (level : Nat) : String := "\n" ++ String.ofList (List.replicate (2 * level) ' ')

mutual

/-- The value laid out over lines, at a level of nesting. A broken value has no text of its own and
is printed as `null`. -/
def print (level : Nat) : Value → String
  | .null => "null"
  | .broken => "null"
  | .bool b => if b then "true" else "false"
  | .natural n => toString n
  | .integer n => toString n
  | .real written => written
  | .text s => printText s
  | .moment written => printText written
  | .list [] => "[]"
  | .list (v :: vs) =>
    "[" ++ newLine (level + 1) ++ print (level + 1) v ++ printItems (level + 1) vs ++
      newLine level ++ "]"
  | .table [] => "\x7b\x7d"
  | .table ((name, v) :: es) =>
    "\x7b" ++ newLine (level + 1) ++ printText name ++ ": " ++ print (level + 1) v ++
      printEntries (level + 1) es ++ newLine level ++ "\x7d"

/-- The further items of a list, each on a line of its own. -/
def printItems (level : Nat) : List Value → String
  | [] => ""
  | v :: vs => "," ++ newLine level ++ print level v ++ printItems level vs

/-- The further entries of a table, each on a line of its own. -/
def printEntries (level : Nat) : List (String × Value) → String
  | [] => ""
  | (name, v) :: es =>
    "," ++ newLine level ++ printText name ++ ": " ++ print level v ++ printEntries level es

end

/-- The value as a document. -/
def render (v : Value) : String := print 0 v

end SiteRouter.Document.Json
