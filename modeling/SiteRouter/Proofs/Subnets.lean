import SiteRouter.Address.Range
import SiteRouter.Site.Check

/-!
# Subnets as sets of addresses

A subnet is the set of the addresses that share its leading bits. This file ties that meaning to the
arithmetic of `Cidr`: `mem_iff` says that the set is the interval from the first to the last
address, whatever the length of the prefix, and `overlap_iff` that two tests on first addresses
decide whether two subnets share an address.
-/

/-- An address lies in a subnet when it has the leading bits that name the subnet. -/
instance : Membership SiteRouter.Ipv4 SiteRouter.Cidr :=
  ⟨fun c a => a.toNat / c.size = c.address.toNat / c.size⟩

namespace SiteRouter

/-- Addresses are told apart by their numbers. -/
theorem Ipv4.eq_of_toNat_eq {a b : Ipv4} (h : a.toNat = b.toNat) : a = b := by
  obtain ⟨a, _⟩ := a
  obtain ⟨b, _⟩ := b
  obtain rfl : a = b := h
  rfl

namespace Cidr

theorem mem_def {a : Ipv4} {c : Cidr} :
    a ∈ c ↔ a.toNat / c.size = c.address.toNat / c.size := Iff.rfl

theorem size_pos (c : Cidr) : 0 < c.size := by
  rw [size, Nat.one_shiftLeft]
  exact Nat.two_pow_pos _

/-- The first address counts the subnets below it. -/
theorem first_toNat (c : Cidr) : c.first.toNat = c.size * (c.address.toNat / c.size) := by
  have h := Nat.div_add_mod c.address.toNat c.size
  show c.address.toNat - c.address.toNat % c.size = _
  omega

/-- **A subnet is the interval from its first to its last address.** -/
theorem mem_iff {a : Ipv4} {c : Cidr} : a ∈ c ↔ c.first ≤ a ∧ a ≤ c.last := by
  have hpos := c.size_pos
  have hfirst := c.first_toNat
  have hlast := c.last_toNat
  rw [mem_def, Nat.div_eq_iff hpos, Nat.mul_comm (c.address.toNat / c.size)]
  show _ ↔ c.first.toNat ≤ a.toNat ∧ a.toNat ≤ c.last.toNat
  omega

theorem contains_iff {a : Ipv4} {c : Cidr} : c.contains a = true ↔ a ∈ c := by
  rw [mem_iff, contains, Bool.and_eq_true, decide_eq_true_iff, decide_eq_true_iff]

/-- The ends of a subnet are in the right order. -/
theorem first_le_last (c : Cidr) : c.first ≤ c.last := by
  show c.first.toNat ≤ c.last.toNat
  have := c.last_toNat
  omega

theorem address_mem (c : Cidr) : c.address ∈ c := rfl

theorem first_mem (c : Cidr) : c.first ∈ c := mem_iff.mpr ⟨Nat.le_refl _, c.first_le_last⟩

theorem last_mem (c : Cidr) : c.last ∈ c := mem_iff.mpr ⟨c.first_le_last, Nat.le_refl _⟩

/-- Written with another of its addresses a subnet is the same set. -/
theorem mem_subnet {a : Ipv4} {c : Cidr} : a ∈ c.subnet ↔ a ∈ c := by
  have hsize : c.subnet.size = c.size := rfl
  have haddress : c.subnet.address.toNat / c.size = c.address.toNat / c.size := c.first_mem
  rw [mem_def, mem_def, hsize, haddress]

/-- Written with another of its addresses a subnet starts and ends at the same places. -/
theorem first_subnet (c : Cidr) : c.subnet.first = c.first := by
  have hsize : c.subnet.size = c.size := rfl
  have haddress : c.subnet.address.toNat / c.size = c.address.toNat / c.size := c.first_mem
  refine Ipv4.eq_of_toNat_eq ?_
  rw [first_toNat, first_toNat, hsize, haddress]

theorem last_subnet (c : Cidr) : c.subnet.last = c.last := by
  refine Ipv4.eq_of_toNat_eq ?_
  rw [last_toNat, last_toNat, first_subnet]
  rfl

/-- Two intervals share an address exactly when one of them holds the lower end of the other. -/
theorem overlap_iff {a b : Cidr} : Site.overlap a b = true ↔ ∃ x, x ∈ a ∧ x ∈ b := by
  rw [Site.overlap, Bool.or_eq_true, contains_iff, contains_iff]
  constructor
  · rintro (h | h)
    · exact ⟨b.first, h, b.first_mem⟩
    · exact ⟨a.first, a.first_mem, h⟩
  · rintro ⟨x, ha, hb⟩
    obtain ⟨haf, hal⟩ : a.first.toNat ≤ x.toNat ∧ x.toNat ≤ a.last.toNat := mem_iff.mp ha
    obtain ⟨hbf, hbl⟩ : b.first.toNat ≤ x.toNat ∧ x.toNat ≤ b.last.toNat := mem_iff.mp hb
    rcases Nat.le_total a.first.toNat b.first.toNat with h | h
    · exact Or.inl (mem_iff.mpr ⟨h, Nat.le_trans hbf hal⟩)
    · exact Or.inr (mem_iff.mpr ⟨h, Nat.le_trans haf hbl⟩)

/-- An address of a subnet is neither of its ends exactly when the subnet goes on below and above
it. -/
theorem ne_ends_iff {a : Ipv4} {c : Cidr} (ha : a ∈ c) :
    (a ≠ c.first ∧ a ≠ c.last) ↔ (∃ x ∈ c, x < a) ∧ ∃ x ∈ c, a < x := by
  obtain ⟨hfirst, hlast⟩ : c.first.toNat ≤ a.toNat ∧ a.toNat ≤ c.last.toNat := mem_iff.mp ha
  constructor
  · rintro ⟨hnefirst, hnelast⟩
    refine ⟨⟨c.first, c.first_mem, ?_⟩, c.last, c.last_mem, ?_⟩
    · exact Nat.lt_of_le_of_ne hfirst fun h => hnefirst (Ipv4.eq_of_toNat_eq h.symm)
    · exact Nat.lt_of_le_of_ne hlast fun h => hnelast (Ipv4.eq_of_toNat_eq h)
  · rintro ⟨⟨x, hx, hxa⟩, y, hy, hay⟩
    have hxa : x.toNat < a.toNat := hxa
    have hay : a.toNat < y.toNat := hay
    have hx : c.first.toNat ≤ x.toNat := (mem_iff.mp hx).1
    have hy : y.toNat ≤ c.last.toNat := (mem_iff.mp hy).2
    constructor
    · rintro rfl
      omega
    · rintro rfl
      omega

end Cidr

end SiteRouter
