import SiteRouter.Proofs.Pools

/-!
# Address pools in words of 32 bits

The ranges of a pool are computed on numbers that carry their bounds, so that nothing can wrap
around there. Where addresses are words of 32 bits, adding one to the last address or taking one
from the first does wrap around, and what keeps it from happening are the tests before it: a prefix
of at most thirty bits, and a router between the first and the last host.

`Word.spans?` is that computation on words. It starts from the address of the router and the length
of the prefix, finds the ends of the subnet by masking, and gives nothing when a sum or a difference
wraps around. `Network.spans_eq` says that it always comes to the ranges of the network, and
`Network.poolRanges_exact` says what the ranges are.
-/

namespace SiteRouter

/-! ## Ranges -/

namespace AddressRange

variable {r q : AddressRange} {a : Ipv4}

theorem length_without_le (r : AddressRange) (a : Ipv4) : (r.without a).length ≤ 2 := by
  unfold without
  split
  · rw [List.length_append]
    split <;> split <;> simp
  · simp

/-- What is left of a range keeps its ends in order. -/
theorem first_le_last_of_mem_without (hr : r.first ≤ r.last) (hq : q ∈ r.without a) :
    q.first ≤ q.last := by
  unfold without at hq
  split at hq
  next ha =>
    obtain ⟨hfirst, hlast⟩ := mem_iff.mp ha
    rcases List.mem_append.mp hq with hq | hq
    · split at hq
      next h =>
        have h : r.first.toNat < a.toNat := h
        rw [List.mem_singleton.mp hq]
        show r.first.toNat ≤ a.toNat - 1
        omega
      next => exact absurd hq List.not_mem_nil
    · split at hq
      next h =>
        have h : a.toNat < r.last.toNat := h
        rw [List.mem_singleton.mp hq]
        show a.toNat + 1 ≤ r.last.toNat
        omega
      next => exact absurd hq List.not_mem_nil
  next => rwa [List.mem_singleton.mp hq]

/-- What is left below the address ends before what is left above it starts. -/
theorem pairwise_without (r : AddressRange) (a : Ipv4) :
    (r.without a).Pairwise fun p q => p.last < q.first := by
  unfold without
  split
  next ha =>
    obtain ⟨hfirst, -⟩ := mem_iff.mp ha
    split
    next h =>
      have h : r.first.toNat < a.toNat := h
      split
      next =>
        refine List.pairwise_pair.mpr ?_
        show a.toNat - 1 < a.toNat + 1
        omega
      next => exact List.pairwise_singleton ..
    next =>
      split
      next => exact List.pairwise_singleton ..
      next => exact List.Pairwise.nil
  next => exact List.pairwise_singleton ..

end AddressRange

namespace Network

variable {n : Network}

/-- The hosts that a pool is taken from. -/
theorem hosts_subnet_eq {hosts : AddressRange} (h : n.subnet.hosts? = some hosts) :
    n.cidr.length ≤ 30 ∧ hosts.first.toNat = n.cidr.first.toNat + 1 ∧
      hosts.last.toNat + 1 = n.cidr.last.toNat := by
  have hfirst : n.subnet.first = n.cidr.first := n.cidr.first_subnet
  have hlast : n.subnet.last = n.cidr.last := n.cidr.last_subnet
  unfold Cidr.hosts? at h
  split at h
  next hlength =>
    have hsize := Cidr.four_le_size hlength
    have hends := n.subnet.last_toNat
    obtain rfl := Option.some.inj h
    rw [← hfirst, ← hlast]
    refine ⟨hlength, rfl, ?_⟩
    show n.subnet.last.toNat - 1 + 1 = n.subnet.last.toNat
    omega
  next => exact absurd h (by simp)

end Network

/-! ## Words -/

/-- A word of 32 bits. -/
abbrev Word := BitVec 32

namespace Word

/-- The sum of two words, unless it wraps around. -/
def add? (x y : Word) : Option Word := if x.uaddOverflow y then none else some (x + y)

/-- The difference of two words, unless it wraps around. -/
def sub? (x y : Word) : Option Word := if x.usubOverflow y then none else some (x - y)

/-- As many leading ones as the length says, and zeros behind them. -/
def mask (length : Nat) : Word := BitVec.allOnes 32 <<< (32 - length)

/-- The spans of addresses that a router hands out: those between the ends of its subnet, without
its own. -/
def spans? (router : Word) (length : Nat) : Option (List (Word × Word)) :=
  if 30 < length then some []
  else do
    let first ← add? (router &&& mask length) 1
    let last ← sub? (router ||| ~~~mask length) 1
    if router < first ∨ last < router then return [(first, last)]
    else
      let below ← sub? router 1
      let above ← add? router 1
      return [(first, below), (above, last)].filter fun (start, stop) => start ≤ stop

/-- A mask has the bits from the end of the prefix up. -/
theorem getLsbD_mask {length i : Nat} (hi : i < 32) :
    (mask length).getLsbD i = decide (32 - length ≤ i) := by
  have hone : (BitVec.allOnes 32).getLsbD (i - (32 - length)) = true := by
    rw [BitVec.getLsbD_allOnes]
    exact decide_eq_true (by omega)
  rw [mask, BitVec.getLsbD_shiftLeft, hone, decide_eq_true hi, Bool.true_and, Bool.and_true,
    ← decide_not]
  simp only [Nat.not_lt]

end Word

/-- The address as a word. -/
def Ipv4.word (a : Ipv4) : Word := BitVec.ofNatLT a.toNat a.toNat_lt

/-- The ends of the range as words. -/
def AddressRange.words (r : AddressRange) : Word × Word := (r.first.word, r.last.word)

namespace Ipv4

variable {a b : Ipv4}

/-- One more than an address is an address unless it was the highest. -/
theorem add?_word_one (h : b.toNat = a.toNat + 1) : Word.add? a.word 1 = some b.word := by
  have hlt := b.toNat_lt
  have hfits : a.word.toNat + (1 : Word).toNat < 2 ^ 32 := by
    show a.toNat + 1 < 2 ^ 32
    omega
  have hsum : a.word + 1 = b.word := by
    refine BitVec.eq_of_toNat_eq ?_
    rw [BitVec.toNat_add_of_lt hfits]
    exact h.symm
  have hkept : ¬a.word.uaddOverflow 1 = true := by
    rw [BitVec.uaddOverflow, decide_eq_true_iff]
    exact Nat.not_le.mpr hfits
  rw [Word.add?, if_neg hkept, hsum]

/-- One less than an address is an address unless it was the lowest. -/
theorem sub?_word_one (h : b.toNat + 1 = a.toNat) : Word.sub? a.word 1 = some b.word := by
  have hfits : (1 : Word).toNat ≤ a.word.toNat := by
    show 1 ≤ a.toNat
    omega
  have hdifference : a.word - 1 = b.word := by
    refine BitVec.eq_of_toNat_eq ?_
    rw [BitVec.toNat_sub_of_le hfits]
    show a.toNat - 1 = b.toNat
    omega
  have hkept : ¬a.word.usubOverflow 1 = true := by
    rw [BitVec.usubOverflow, decide_eq_true_iff]
    exact Nat.not_lt.mpr hfits
  rw [Word.sub?, if_neg hkept, hdifference]

end Ipv4

namespace Cidr

variable (c : Cidr)

theorem testBit_first (i : Nat) : c.first.toNat.testBit i =
    (decide (32 - c.length ≤ i) && c.address.toNat.testBit i) := by
  have hproduct : c.first.toNat =
      2 ^ (32 - c.length) * (c.address.toNat / 2 ^ (32 - c.length)) := by
    rw [c.first_toNat, size, Nat.one_shiftLeft]
  rw [hproduct, Nat.testBit_two_pow_mul, Nat.testBit_div_two_pow]
  by_cases hi : 32 - c.length ≤ i
  · rw [Nat.sub_add_cancel hi]
  · simp [hi]

theorem testBit_last (i : Nat) : c.last.toNat.testBit i =
    if i < 32 - c.length then true else c.address.toNat.testBit i := by
  have hsum : c.last.toNat = 2 ^ (32 - c.length) * (c.address.toNat / 2 ^ (32 - c.length)) +
      (2 ^ (32 - c.length) - 1) := by
    rw [c.last_toNat, c.first_toNat, size, Nat.one_shiftLeft]
  have hlow : 2 ^ (32 - c.length) - 1 < 2 ^ (32 - c.length) :=
    Nat.sub_lt (Nat.two_pow_pos _) Nat.one_pos
  rw [hsum, Nat.testBit_two_pow_mul_add _ hlow, Nat.testBit_two_pow_sub_one]
  split
  next hi => exact decide_eq_true hi
  next hi => rw [Nat.testBit_div_two_pow, Nat.sub_add_cancel (Nat.le_of_not_lt hi)]

/-- The first address keeps the bits of the prefix and has zeros behind them. -/
theorem word_first : c.address.word &&& Word.mask c.length = c.first.word := by
  refine BitVec.eq_of_getLsbD_eq fun i hi => ?_
  rw [BitVec.getLsbD_and, Word.getLsbD_mask hi, Bool.and_comm]
  exact (c.testBit_first i).symm

/-- The last address keeps the bits of the prefix and has ones behind them. -/
theorem word_last : c.address.word ||| ~~~Word.mask c.length = c.last.word := by
  refine BitVec.eq_of_getLsbD_eq fun i hi => ?_
  rw [BitVec.getLsbD_or, BitVec.getLsbD_not, Word.getLsbD_mask hi, decide_eq_true hi,
    Bool.true_and, ← decide_not]
  show (c.address.toNat.testBit i || _) = c.last.toNat.testBit i
  rw [c.testBit_last]
  by_cases h : i < 32 - c.length <;> simp [h] <;> omega

end Cidr

/-! ## Pools -/

namespace AddressRange

variable {r : AddressRange} {a below above : Ipv4}

theorem without_of_mem (ha : a ∈ r) (hbelow : below.toNat + 1 = a.toNat)
    (habove : above.toNat = a.toNat + 1) : r.without a =
      (if r.first < a then [⟨r.first, below⟩] else []) ++
        if a < r.last then [⟨above, r.last⟩] else [] := by
  have hlow : a.toNat - 1 < 0x100000000 := by
    have := a.toNat_lt
    omega
  have hhigh : a.toNat + 1 < 0x100000000 := by
    have := above.toNat_lt
    omega
  obtain rfl : below = ⟨a.toNat - 1, hlow⟩ := by
    refine Ipv4.eq_of_toNat_eq ?_
    show below.toNat = a.toNat - 1
    omega
  obtain rfl : above = ⟨a.toNat + 1, hhigh⟩ := Ipv4.eq_of_toNat_eq habove
  rw [without, if_pos ha]
  rfl

/-- What is left of a range without one of its addresses are the spans below and above the address
as far as they hold something. -/
theorem words_without (ha : a ∈ r) (hbelow : below.toNat + 1 = a.toNat)
    (habove : above.toNat = a.toNat + 1) : (r.without a).map words =
      [(r.first.word, below.word), (above.word, r.last.word)].filter fun (x, y) => x ≤ y := by
  have hfirst : r.first.word ≤ below.word ↔ r.first < a := by
    show r.first.toNat ≤ below.toNat ↔ r.first.toNat < a.toNat
    omega
  have hlast : above.word ≤ r.last.word ↔ a < r.last := by
    show above.toNat ≤ r.last.toNat ↔ a.toNat < r.last.toNat
    omega
  rw [without_of_mem ha hbelow habove, List.filter_cons, List.filter_cons, List.filter_nil]
  simp only [decide_eq_true_iff, hfirst, hlast]
  by_cases hf : r.first < a <;> by_cases hl : a < r.last <;> simp [hf, hl, words]

end AddressRange

namespace Network

/-- **On words the ranges of a pool are the same, and no sum or difference wraps around.** -/
theorem spans_eq (n : Network) :
    Word.spans? n.router.word n.cidr.length = some (n.poolRanges.map AddressRange.words) := by
  have hnetwork : n.router.word &&& Word.mask n.cidr.length = n.cidr.first.word := n.cidr.word_first
  have hbroadcast : n.router.word ||| ~~~Word.mask n.cidr.length = n.cidr.last.word :=
    n.cidr.word_last
  unfold Word.spans? poolRanges
  cases hhosts : n.subnet.hosts? with
  | none =>
    have hlength : 30 < n.cidr.length := by
      refine Nat.lt_of_not_le fun hle => ?_
      have hle : n.subnet.length ≤ 30 := hle
      rw [Cidr.hosts?, dif_pos hle] at hhosts
      exact absurd hhosts (by simp)
    rw [if_pos hlength]
    rfl
  | some hosts =>
    obtain ⟨hlength, hfirst, hlast⟩ := hosts_subnet_eq hhosts
    rw [if_neg (Nat.not_lt.mpr hlength), hnetwork, hbroadcast, Ipv4.add?_word_one hfirst,
      Ipv4.sub?_word_one hlast]
    show (if n.router.word < hosts.first.word ∨ hosts.last.word < n.router.word then _ else _) = _
    split
    next houtside =>
      have houtside : n.router.toNat < hosts.first.toNat ∨ hosts.last.toNat < n.router.toNat :=
        houtside
      have hrouter : n.router ∉ hosts := by
        rw [AddressRange.mem_iff]
        omega
      show _ = some ((hosts.without n.router).map AddressRange.words)
      rw [AddressRange.without, if_neg hrouter]
      rfl
    next hinside =>
      have hinside : ¬(n.router.toNat < hosts.first.toNat ∨ hosts.last.toNat < n.router.toNat) :=
        hinside
      have hrouter : n.router ∈ hosts := by
        rw [AddressRange.mem_iff]
        omega
      -- The router is a host, so there are an address before it and one behind it.
      have hbroadcast := n.cidr.last.toNat_lt
      let below : Ipv4 := ⟨n.router.toNat - 1, by omega⟩
      let above : Ipv4 := ⟨n.router.toNat + 1, by omega⟩
      have hbelow : below.toNat + 1 = n.router.toNat := by
        show n.router.toNat - 1 + 1 = n.router.toNat
        omega
      have habove : above.toNat = n.router.toNat + 1 := rfl
      rw [Ipv4.sub?_word_one hbelow, Ipv4.add?_word_one habove]
      show some _ = some ((hosts.without n.router).map AddressRange.words)
      rw [AddressRange.words_without hrouter hbelow habove]

theorem first_le_last_of_mem_poolRanges {n : Network} {r : AddressRange} (hr : r ∈ n.poolRanges) :
    r.first ≤ r.last := by
  unfold poolRanges at hr
  split at hr
  next hosts hhosts =>
    obtain ⟨hlength, hfirst, hlast⟩ := hosts_subnet_eq hhosts
    have hsize := Cidr.four_le_size hlength
    have hends := n.cidr.last_toNat
    refine AddressRange.first_le_last_of_mem_without ?_ hr
    show hosts.first.toNat ≤ hosts.last.toNat
    omega
  next => exact absurd hr List.not_mem_nil

theorem poolRanges_eq_nil_iff {n : Network} : n.poolRanges = [] ↔ 30 < n.cidr.length := by
  constructor
  · intro hnone
    refine Nat.lt_of_not_le fun hlength => ?_
    obtain ⟨a, hfirst, hlast, hrouter⟩ := Cidr.exists_host_ne hlength n.router
    obtain ⟨r, hr, -⟩ := mem_poolRanges_iff.mpr ⟨hlength, hfirst, hlast, hrouter⟩
    rw [hnone] at hr
    exact absurd hr List.not_mem_nil
  · intro hlength
    have hnone : n.subnet.hosts? = none := dif_neg (Nat.not_le.mpr hlength)
    rw [poolRanges, hnone]

/-- **The ranges of a pool are exact.** There are none for a prefix longer than thirty bits, and one
or two for any other. They are read back from their texts as intervals that are not empty and stand
in ascending order without touching, and together they are the addresses strictly between the ends
of the subnet without that of the router. On words of 32 bits they come out the same, and no
addition or subtraction on the way wraps around. -/
theorem poolRanges_exact (n : Network) :
    (n.poolRanges = [] ↔ 30 < n.cidr.length) ∧ n.poolRanges.length ≤ 2 ∧
    (∀ r ∈ n.poolRanges, AddressRange.ofChars? r.render.toList = some r ∧ r.first ≤ r.last) ∧
    n.poolRanges.Pairwise (fun p q => p.last < q.first) ∧
    (∀ a, (∃ r ∈ n.poolRanges, a ∈ r) ↔ n.cidr.length ≤ 30 ∧
      n.subnet.first < a ∧ a < n.subnet.last ∧ a ≠ n.router) ∧
    Word.spans? n.router.word n.cidr.length = some (n.poolRanges.map AddressRange.words) := by
  have hends : ∀ a, (∃ r ∈ n.poolRanges, a ∈ r) ↔ n.cidr.length ≤ 30 ∧
      n.subnet.first < a ∧ a < n.subnet.last ∧ a ≠ n.router := by
    rw [subnet, Cidr.first_subnet, Cidr.last_subnet]
    exact fun a => mem_poolRanges_iff
  refine ⟨poolRanges_eq_nil_iff, ?_, fun r hr => ⟨r.ofChars?_render, ?_⟩, ?_, hends, n.spans_eq⟩
  · unfold poolRanges
    cases n.subnet.hosts? with
    | none => exact Nat.zero_le 2
    | some hosts => exact hosts.length_without_le n.router
  · exact first_le_last_of_mem_poolRanges hr
  · unfold poolRanges
    cases n.subnet.hosts? with
    | none => exact List.Pairwise.nil
    | some hosts => exact hosts.pairwise_without n.router

end Network

end SiteRouter
