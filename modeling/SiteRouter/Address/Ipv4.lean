import SiteRouter.Text.Digits
import SiteRouter.Text.Fields

/-!
# IPv4 addresses

An address is a number below 2^32, and is written as its four octets in decimal with dots between
them. The strict form has no needless zeros in front of an octet; `ofOctets?` takes the reading of
one octet as a parameter, because other forms allow them.
-/

namespace SiteRouter

/-- An IPv4 address as the number its four octets write in base 256. -/
structure Ipv4 where
  toNat : Nat
  toNat_lt : toNat < 0x100000000
  deriving DecidableEq, Repr

namespace Ipv4

/-- The address `0.0.0.0`. -/
def zero : Ipv4 := ⟨0, by decide⟩

/-- The address whose octets are `a.b.c.d`. -/
def ofOctets (a b c d : Fin 256) : Ipv4 :=
  ⟨((a.val * 256 + b.val) * 256 + c.val) * 256 + d.val, by omega⟩

/-- The four octets, the most significant first. -/
def octets (a : Ipv4) : List Nat :=
  [a.toNat / 0x1000000, a.toNat / 0x10000 % 0x100, a.toNat / 0x100 % 0x100, a.toNat % 0x100]

/-- The address in dotted decimal. -/
def render (a : Ipv4) : String := ".".intercalate (a.octets.map toString)

instance : ToString Ipv4 := ⟨render⟩

/-- Addresses are ordered as numbers. -/
instance : LE Ipv4 := ⟨fun a b => a.toNat ≤ b.toNat⟩

instance (a b : Ipv4) : Decidable (a ≤ b) := inferInstanceAs (Decidable (a.toNat ≤ b.toNat))

/-- An octet in one to three decimal digits, with zeros in front allowed. -/
def paddedOctet? (cs : List Char) : Option (Fin 256) :=
  (Text.number? 10 1 3 cs).bind fun n => if h : n < 256 then some ⟨n, h⟩ else none

/-- An octet in decimal without needless zeros. -/
def octet? (cs : List Char) : Option (Fin 256) :=
  if cs.length > 1 ∧ cs.head? = some '0' then none else paddedOctet? cs

/-- Reads four octets with dots between them. -/
def ofChars? (octet? : List Char → Option (Fin 256)) (cs : List Char) : Option Ipv4 :=
  match Text.fieldsAt '.' cs with
  | [a, b, c, d] => do return ofOctets (← octet? a) (← octet? b) (← octet? c) (← octet? d)
  | _ => none

/-- Reads an address in dotted decimal without needless zeros. -/
def ofString? (s : String) : Option Ipv4 := ofChars? octet? s.toList

end Ipv4

end SiteRouter
