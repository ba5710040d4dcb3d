/-!
# Reading digits

The value of one digit in a base up to thirty-six, and of a run of digits. Letters stand for the
values from ten up, in either case; only ASCII digits and letters count.
-/

namespace SiteRouter.Text

/-- The value of a digit or letter, if it is a digit in that base. -/
def digitValue? (base : Nat) (c : Char) : Option Nat :=
  let v :=
    if '0' ≤ c ∧ c ≤ '9' then some (c.toNat - '0'.toNat)
    else if 'a' ≤ c ∧ c ≤ 'z' then some (c.toNat - 'a'.toNat + 10)
    else if 'A' ≤ c ∧ c ≤ 'Z' then some (c.toNat - 'A'.toNat + 10)
    else none
  v.filter (· < base)

/-- Is the character a digit in that base? -/
def isDigitIn (base : Nat) (c : Char) : Bool := (digitValue? base c).isSome

/-- The number that the digits write in that base; characters that are no digits count as zero. -/
def ofDigits (base : Nat) (cs : List Char) : Nat :=
  cs.foldl (fun n c => n * base + (digitValue? base c).getD 0) 0

/-- The number a text writes when it holds between `least` and `most` digits and nothing else. -/
def number? (base least most : Nat) (cs : List Char) : Option Nat :=
  if least ≤ cs.length ∧ cs.length ≤ most ∧ cs.all (isDigitIn base) then some (ofDigits base cs)
  else none

/-- A number in two digits at least, with a zero in front where one is missing. -/
def twoDigits (n : Nat) : String := if n < 10 then s!"0{n}" else toString n

/-- A number in four digits at least, with zeros in front where some are missing. -/
def fourDigits (n : Nat) : String :=
  if n < 10 then s!"000{n}" else if n < 100 then s!"00{n}" else if n < 1000 then s!"0{n}"
  else toString n

end SiteRouter.Text
