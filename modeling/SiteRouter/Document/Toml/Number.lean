import SiteRouter.Document.Decimal
import SiteRouter.Document.Toml.Text
import SiteRouter.Document.Value
import SiteRouter.Time.Calendar

/-!
# TOML numbers, dates and times

Whole numbers are signed and fit into 64 bits, in four bases; digits may be separated by single
underscores. Dates and times are checked against the calendar and kept in their normal written
form: `T` between date and time, fractions to the nanosecond without trailing zeros.
-/

namespace SiteRouter.Document.Toml

open Text (isDigitIn ofDigits twoDigits fourDigits)

/-- What follows the sign, and whether it is a minus; there may be none. -/
def readSign : List Char → Bool × List Char
  | '-' :: r => (true, r)
  | '+' :: r => (false, r)
  | cs => (false, cs)

/-- Further digits, each with one underscore in front of it or none. -/
def readMoreDigits (base : Nat) : Reader (List Char)
  | [] => some ([], [])
  | '_' :: c :: r =>
    if isDigitIn base c then (readMoreDigits base r).map fun (ds, r) => (c :: ds, r) else none
  | c :: r =>
    if isDigitIn base c then (readMoreDigits base r).map fun (ds, r) => (c :: ds, r)
    else if c = '_' then none
    else some ([], c :: r)

/-- Digits, the first of which has no underscore in front. -/
def readDigits (base : Nat) : Reader (List Char)
  | c :: r =>
    if isDigitIn base c then (readMoreDigits base r).map fun (ds, r) => (c :: ds, r) else none
  | [] => none

/-- The digits of a decimal whole number: a zero alone, or digits that start with another. -/
def readWhole : Reader (List Char)
  | '0' :: r => some (['0'], r)
  | cs => readDigits 10 cs

/-- The number, if it fits into 64 bits with its sign. -/
def int64? (n : Int) : Option Value :=
  if -0x8000000000000000 ≤ n ∧ n < 0x8000000000000000 then some (.integer n) else none

/-- A whole number. -/
def readInteger : Reader Value
  | '0' :: 'x' :: r => based 16 r
  | '0' :: 'o' :: r => based 8 r
  | '0' :: 'b' :: r => based 2 r
  | cs => do
    let (negative, r) := readSign cs
    let (digits, r) ← readWhole r
    let n : Int := ofDigits 10 digits
    return (← int64? (if negative then -n else n), r)
where
  /-- The digits of a whole number in another base. -/
  based (base : Nat) (r : List Char) : Option (Value × List Char) := do
    let (digits, r) ← readDigits base r
    return (← int64? (ofDigits base digits), r)

/-- An exponent of a number. -/
def readExponent : Reader Int
  | e :: r => do
    if e = 'e' || e = 'E' then
      let (negative, r) := readSign r
      let (digits, r) ← readDigits 10 r
      let n : Int := ofDigits 10 digits
      return (if negative then -n else n, r)
    else none
  | [] => none

/-- The words for infinity and for no number at all, with or without a sign. -/
def readSpecial (cs : List Char) : Option (Value × List Char) :=
  match (readSign cs).2 with
  | 'i' :: 'n' :: 'f' :: r => some (.real "inf", r)
  | 'n' :: 'a' :: 'n' :: r => some (.real "nan", r)
  | _ => none

/-- The part of a number after its whole digits: a fraction with or without an exponent, or an
exponent alone. -/
def readScale : Reader (List Char × Int)
  | '.' :: r => do
    let (fraction, r) ← readDigits 10 r
    match readExponent r with
    | some (exponent, r) => return ((fraction, exponent), r)
    | none => return ((fraction, 0), r)
  | r => (readExponent r).map fun (exponent, r) => (([], exponent), r)

/-- A number in digits with a fraction or an exponent. A positive one must not be too large for a
double. -/
def readDecimal : Reader Value := fun cs => do
  let (negative, r) := readSign cs
  let (whole, r) ← readWhole r
  let ((fraction, exponent), r) ← readScale r
  let (significand, power) := scaled whole fraction exponent
  if !negative && overflowsDouble significand power then none
  else return (.real (String.ofList (cs.take (cs.length - r.length))), r)

/-- A number that is not whole: in digits, or one of the words. -/
def readReal : Reader Value := fun cs =>
  match readDecimal cs with
  | some result => some result
  | none => readSpecial cs

/-- Two digits that write a number in the range. -/
def readPair (least most : Nat) : Reader Nat
  | a :: b :: r => do
    let n ← Text.number? 10 2 2 [a, b]
    if least ≤ n ∧ n ≤ most then return (n, r) else none
  | _ => none

/-- What follows the character, if the text starts with it. -/
def afterChar? (c : Char) : List Char → Option (List Char)
  | d :: r => if d = c then some r else none
  | [] => none

/-- A date of the calendar, in its written form. -/
def readDate : Reader String := fun cs => do
  let year ← Text.number? 10 4 4 (cs.take 4)
  let (month, r) ← readPair 1 12 (← afterChar? '-' (cs.drop 4))
  let (day, r) ← readPair 1 31 (← afterChar? '-' r)
  if day ≤ Time.daysInMonth year month then
    return (s!"{fourDigits year}-{twoDigits month}-{twoDigits day}", r)
  else none

/-- A fraction of a second in its shortest form, to nine digits; it is empty when it is zero or
when there is none. -/
def readFraction (cs : List Char) : String × List Char :=
  match cs with
  | '.' :: r =>
    let (digits, rest) := r.span isDigit
    if digits = [] then ("", cs)
    else
      let kept := ((digits.take 9).reverse.dropWhile (· = '0')).reverse
      (if kept = [] then "" else String.ofList ('.' :: kept), rest)
  | _ => ("", cs)

/-- A time of day in its written form. -/
def readTime : Reader String := fun cs => do
  let (hour, r) ← readPair 0 23 cs
  let (minute, r) ← readPair 0 59 (← afterChar? ':' r)
  let (second, r) ← readPair 0 60 (← afterChar? ':' r)
  let (fraction, r) := readFraction r
  return (s!"{twoDigits hour}:{twoDigits minute}:{twoDigits second}{fraction}", r)

/-- An offset from UTC in its written form; it is empty when there is none. -/
def readOffset (cs : List Char) : String × List Char :=
  match cs with
  | 'Z' :: r | 'z' :: r => ("Z", r)
  | sign :: r =>
    if sign = '+' ∨ sign = '-' then
      let offset : Option (String × List Char) := do
        let (hour, r) ← readPair 0 23 r
        let (minute, r) ← readPair 0 59 (← afterChar? ':' r)
        let sign := if hour = 0 ∧ minute = 0 then '+' else sign
        return (s!"{sign}{twoDigits hour}:{twoDigits minute}", r)
      offset.getD ("", cs)
    else ("", cs)
  | [] => ("", [])

/-- A date, a time of day, or a date with a time of day and perhaps an offset. -/
def readMoment : Reader Value := fun cs =>
  match readDate cs with
  | some (date, r) =>
    let withTime : Option (Value × List Char) := do
      let r ← match r with
        | 'T' :: r | 't' :: r | ' ' :: r => some r
        | _ => none
      let (time, r) ← readTime r
      let (offset, r) := readOffset r
      return (.moment (date ++ "T" ++ time ++ offset), r)
    some (withTime.getD (.moment date, r))
  | none => (readTime cs).map fun (time, r) => (.moment time, r)

/-- A number, a date or a time, tried in the order that tells them apart. -/
def readNumber : Reader Value := fun cs =>
  -- A date starts like a whole number, and so does a number with a fraction.
  match readMoment cs with
  | some result => some result
  | none =>
    match readReal cs with
    | some result => some result
    | none => readInteger cs

end SiteRouter.Document.Toml
