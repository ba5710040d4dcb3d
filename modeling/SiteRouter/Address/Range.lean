import SiteRouter.Address.Cidr

/-!
# Ranges of addresses

An inclusive range of IPv4 addresses, the hosts of a subnet as one, and what is left of a range
when one address is taken out. Both steps keep every bound an address, so nothing wraps around.
-/

namespace SiteRouter

instance : LT Ipv4 := ⟨fun a b => a.toNat < b.toNat⟩

instance (a b : Ipv4) : Decidable (a < b) := inferInstanceAs (Decidable (a.toNat < b.toNat))

/-- The addresses from `first` to `last`, both included. -/
structure AddressRange where
  first : Ipv4
  last : Ipv4
  deriving DecidableEq, Repr

namespace AddressRange

/-- An address is in the range when it lies between its ends. -/
instance : Membership Ipv4 AddressRange := ⟨fun r a => r.first ≤ a ∧ a ≤ r.last⟩

instance (a : Ipv4) (r : AddressRange) : Decidable (a ∈ r) :=
  inferInstanceAs (Decidable (r.first ≤ a ∧ a ≤ r.last))

/-- The two ends with a hyphen between them. -/
def render (r : AddressRange) : String := s!"{r.first}-{r.last}"

/-- What is left of the range without one address: nothing is lost when the address is outside, and
otherwise the addresses below and above it remain, as far as there are any. -/
def without (r : AddressRange) (a : Ipv4) : List AddressRange :=
  if a ∈ r then
    (if r.first < a then [⟨r.first, ⟨a.toNat - 1, by have := a.toNat_lt; omega⟩⟩] else []) ++
    (if h : a < r.last then
      [⟨⟨a.toNat + 1, by
        have h : a.toNat < r.last.toNat := h
        have := r.last.toNat_lt
        omega⟩, r.last⟩]
    else [])
  else [r]

end AddressRange

namespace Cidr

/-- A subnet with a prefix of at most thirty bits has four addresses at least. -/
theorem four_le_size {c : Cidr} (hc : c.length ≤ 30) : 4 ≤ c.size := by
  rw [size, Nat.one_shiftLeft]
  have h : 2 ^ 2 ≤ 2 ^ (32 - c.length) := Nat.pow_le_pow_right (by decide) (by omega)
  exact h

/-- The last address of a subnet is as far from the first as the size says. -/
theorem last_toNat (c : Cidr) : c.last.toNat = c.first.toNat + (c.size - 1) := rfl

/-- The addresses strictly between the first and the last of the subnet; a prefix longer than thirty
bits leaves none. -/
def hosts? (c : Cidr) : Option AddressRange :=
  if h : c.length ≤ 30 then
    some ⟨⟨c.first.toNat + 1, by
        have := four_le_size h
        have := last_toNat c
        have := c.last.toNat_lt
        omega⟩,
      ⟨c.last.toNat - 1, by have := c.last.toNat_lt; omega⟩⟩
  else none

end Cidr

end SiteRouter
