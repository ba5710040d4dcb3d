import SiteRouter.Text.Digits

/-!
# Decimal numbers

What the two document formats need for reading a number: a digit, and the question whether a decimal
number is too large for a double-precision float. The question has two answers. `overflowsDouble`
looks at the number itself; `overflowsProduct` looks at the product of two doubles, the one nearest
to its digits and the one nearest to its power of ten, and close to the limit the two may differ.
-/

namespace SiteRouter.Document

open Text (isDigitIn ofDigits)

/-- A decimal digit. -/
def isDigit (c : Char) : Bool := isDigitIn 10 c

/-- The smallest number that rounds to infinity as a double: half a step above the largest one. -/
def doubleLimit : Nat := (1 <<< 1024) - (1 <<< 970)

/-- Does `significand * 10 ^ exponent` round to infinity as a double? The size of the number is
compared first, so that no power is computed that the answer does not need. -/
def overflowsDouble (significand : Nat) (exponent : Int) : Bool :=
  if significand = 0 then false
  else
    let size : Int := (Nat.toDigits 10 significand).length + exponent
    if size > 310 then true
    else if size < 308 then false
    else if exponent ≥ 0 then significand * Nat.pow 10 exponent.toNat ≥ doubleLimit
    else significand ≥ doubleLimit * Nat.pow 10 (-exponent).toNat

/-- The double nearest to a number, of two nearest ones the even one. The range of doubles is left
aside, so that a number beyond the largest of them is rounded in the same way. -/
def nearestDouble (n : Nat) : Nat :=
  if n < 1 <<< 53 then n
  else
    -- Fifty-three bits are kept, so the neighbours of the number are that far apart.
    let step := 1 <<< (n.log2 - 52)
    let below := n / step
    let rest := n % step
    if 2 * rest < step ∨ (2 * rest = step ∧ below % 2 = 0) then below * step
    else (below + 1) * step

/-- Is the product of the doubles nearest to the two factors of `significand * 10 ^ exponent`
infinite? A power of ten that is no double counts as infinite, and one below one makes nothing
larger. -/
def overflowsProduct (significand : Nat) (exponent : Int) : Bool :=
  significand ≠ 0 && 0 ≤ exponent && (308 < exponent ||
    doubleLimit ≤ nearestDouble significand * nearestDouble (Nat.pow 10 exponent.toNat))

/-- The value of a number with the given digits before and after its point and the given exponent,
as a whole significand and a power of ten. -/
def scaled (whole fraction : List Char) (exponent : Int) : Nat × Int :=
  (ofDigits 10 (whole ++ fraction), exponent - fraction.length)

end SiteRouter.Document
