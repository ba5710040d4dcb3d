import SiteRouter.Text.Blank
import SiteRouter.Text.Digits
import SiteRouter.Time.Calendar

/-!
# Timestamps

A moment to the second, kept in UTC. It is written in the RFC 3339 form `YYYY-MM-DDThh:mm:ssZ`, a
year outside of four digits with its sign. What is read is more lenient: the numbers may be short,
white space may stand around them, the date and the time may be apart by `T`, `t` or a space,
fractions of a second are dropped, and the offset from UTC may be `Z`, `UTC`, or hours and minutes
with a sign. A second 60 is allowed in any minute.
-/

namespace SiteRouter

/-- A date and a time of day in UTC. -/
structure Timestamp where
  year : Int
  month : Nat
  day : Nat
  hour : Nat
  minute : Nat
  second : Nat
  deriving DecidableEq, Repr

namespace Timestamp

open Text (dropBlanks ofDigits isDigitIn twoDigits fourDigits)

/-- A year in four digits, or with its sign when it does not fit. -/
def yearText (year : Int) : String :=
  if 0 ≤ year ∧ year ≤ 9999 then fourDigits year.toNat
  else if year < 0 then "-" ++ fourDigits (-year).toNat
  else s!"+{year}"

/-- The timestamp with whole seconds and the mark of UTC. -/
def render (t : Timestamp) : String :=
  s!"{yearText t.year}-{twoDigits t.month}-{twoDigits t.day}" ++
    s!"T{twoDigits t.hour}:{twoDigits t.minute}:{twoDigits t.second}Z"

instance : ToString Timestamp := ⟨render⟩

/-- The moment that many seconds after the start of 1970. -/
def ofEpochSeconds (seconds : Int) : Timestamp :=
  let (year, month, day) := Time.ofDayNumber (Time.dayNumber 1970 1 1 + seconds / 86400)
  let ofDay := (seconds % 86400).toNat
  ⟨year, month, day, ofDay / 3600, ofDay / 60 % 60, ofDay % 60⟩

/-- The years for which dates are kept. -/
def hasYear (year : Int) : Bool := -262143 ≤ year && year ≤ 262142

/-- Reads a number of at most `width` digits after white space. -/
def readNumber (width : Nat) (cs : List Char) : Option (Nat × List Char) :=
  let cs := dropBlanks cs
  let digits := (cs.take width).takeWhile (isDigitIn 10)
  if digits = [] then none else some (ofDigits 10 digits, cs.drop digits.length)

/-- Reads a year after white space. A sign lifts the limit of four digits. -/
def readYear (cs : List Char) : Option (Int × List Char) :=
  match dropBlanks cs with
  | '-' :: r => do
    if r.head?.any (isDigitIn 10) then
      let (n, r) ← readNumber r.length r
      return (-n, r)
    else none
  | '+' :: r => do
    if r.head?.any (isDigitIn 10) then
      let (n, r) ← readNumber r.length r
      return (n, r)
    else none
  | cs => do
    let (n, r) ← readNumber 4 cs
    return (n, r)

/-- Reads one character after white space. -/
def readMark (mark : Char) (cs : List Char) : Option (List Char) :=
  match dropBlanks cs with
  | c :: r => if c = mark then some r else none
  | [] => none

/-- Drops a fraction of a second, which needs a digit after its point. -/
def dropFraction : List Char → Option (List Char)
  | '.' :: r =>
    if r.head?.any (isDigitIn 10) then some (r.dropWhile (isDigitIn 10)) else none
  | cs => some cs

/-- Reads hours and minutes of an offset after its sign, in minutes. -/
def readOffsetTime (cs : List Char) : Option (Nat × List Char) :=
  match cs with
  | h₁ :: h₂ :: r =>
    if isDigitIn 10 h₁ && isDigitIn 10 h₂ then
      match r.dropWhile fun c => c = ':' || Text.isBlank c with
      | m₁ :: m₂ :: r =>
        if isDigitIn 6 m₁ && isDigitIn 10 m₂ then
          some (ofDigits 10 [h₁, h₂] * 60 + ofDigits 10 [m₁, m₂], r)
        else none
      | _ => none
    else none
  | _ => none

/-- Reads an offset from UTC, in minutes east of it. -/
def readOffset (cs : List Char) : Option (Int × List Char) :=
  match cs with
  | 'Z' :: r | 'z' :: r => some (0, r)
  | '+' :: r => (readOffsetTime r).map fun (m, r) => (m, r)
  | '-' :: r | '\u2212' :: r => (readOffsetTime r).map fun (m, r) => (-m, r)
  | u :: t :: c :: r =>
    if [u.toUpper, t.toUpper, c.toUpper] = ['U', 'T', 'C'] then some (0, r) else none
  | _ => none

/-- The moment that a date and a time show at an offset of that many minutes east of UTC, if
there is such a date and its year is kept. -/
def atOffset? (t : Timestamp) (offset : Int) : Option Timestamp :=
  if 1 ≤ t.month ∧ t.month ≤ 12 ∧ 1 ≤ t.day ∧ t.day ≤ Time.daysInMonth t.year t.month ∧
      t.hour ≤ 23 ∧ t.minute ≤ 59 ∧ t.second ≤ 60 ∧ hasYear t.year ∧
      -1440 < offset ∧ offset < 1440 then
    let minutes := (t.hour * 60 + t.minute : Int) - offset
    let (year, month, day) :=
      Time.ofDayNumber (Time.dayNumber t.year t.month t.day + minutes / 1440)
    let ofDay := (minutes % 1440).toNat
    if hasYear year then some ⟨year, month, day, ofDay / 60, ofDay % 60, t.second⟩ else none
  else none

/-- Reads a timestamp with its offset and moves it to UTC. -/
def ofString? (s : String) : Option Timestamp := do
  let (year, r) ← readYear s.toList
  let (month, r) ← readNumber 2 (← readMark '-' r)
  let (day, r) ← readNumber 2 (← readMark '-' r)
  let r ← match r with
    | 'T' :: r | 't' :: r | ' ' :: r => some r
    | _ => none
  let (hour, r) ← readNumber 2 r
  let (minute, r) ← readNumber 2 (← readMark ':' r)
  let (second, r) ← readNumber 2 (← readMark ':' r)
  let (offset, r) ← readOffset (dropBlanks (← dropFraction r))
  if dropBlanks r = [] then atOffset? ⟨year, month, day, hour, minute, second⟩ offset else none

end Timestamp

end SiteRouter
