import SiteRouter.Address.Ipv4

/-!
# Addresses with a prefix length

An address together with the number of leading bits that name its subnet. The subnet is the set of
addresses from `first` to `last`; both ends, and everything else here, are plain arithmetic on
natural numbers, so nothing can overflow.
-/

namespace SiteRouter

/-- An address and the length of its network prefix. -/
structure Cidr where
  address : Ipv4
  length : Nat
  length_le : length ≤ 32
  deriving DecidableEq, Repr

namespace Cidr

/-- How many addresses the subnet has. -/
def size (c : Cidr) : Nat := 1 <<< (32 - c.length)

/-- The first address of the subnet, which names the network. -/
def first (c : Cidr) : Ipv4 :=
  ⟨c.address.toNat - c.address.toNat % c.size, by have := c.address.toNat_lt; omega⟩

/-- The last address of the subnet, which is its broadcast address. -/
def last (c : Cidr) : Ipv4 :=
  ⟨c.address.toNat - c.address.toNat % c.size + (c.size - 1), by
    have h := c.address.toNat_lt
    have hs : c.size * 2 ^ c.length = 0x100000000 := by
      have hl : 32 - c.length + c.length = 32 := Nat.sub_add_cancel c.length_le
      rw [size, Nat.one_shiftLeft, ← Nat.pow_add, hl]
    have hpos : 0 < c.size := by rw [size, Nat.one_shiftLeft]; exact Nat.two_pow_pos _
    have hd := Nat.div_add_mod c.address.toNat c.size
    have hlt : c.address.toNat / c.size < 2 ^ c.length :=
      Nat.div_lt_of_lt_mul (by rw [hs]; exact h)
    have hm : c.size * (c.address.toNat / c.size + 1) ≤ c.size * 2 ^ c.length :=
      Nat.mul_le_mul_left _ hlt
    rw [Nat.mul_add, Nat.mul_one, hs] at hm
    omega⟩

/-- The subnet itself, written with its first address. -/
def subnet (c : Cidr) : Cidr := { c with address := c.first }

/-- Does the address lie in the subnet? -/
def contains (c : Cidr) (a : Ipv4) : Bool := c.first ≤ a && a ≤ c.last

/-- One address alone. -/
def host (a : Ipv4) : Cidr := ⟨a, 32, by decide⟩

/-- Every address. -/
def everything : Cidr := ⟨Ipv4.zero, 0, by decide⟩

/-- The address, a slash, and the prefix length. -/
def render (c : Cidr) : String := s!"{c.address}/{c.length}"

instance : ToString Cidr := ⟨render⟩

/-- Reads the written form; octets may have zeros in front, and the length has one or two digits. -/
def ofString? (s : String) : Option Cidr :=
  match Text.fieldsAt '/' s.toList with
  | [address, length] => do
    let address ← Ipv4.ofChars? Ipv4.paddedOctet? address
    let length ← Text.number? 10 1 2 length
    if h : length ≤ 32 then some ⟨address, length, h⟩ else none
  | _ => none

end Cidr

end SiteRouter
