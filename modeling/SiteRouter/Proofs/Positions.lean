import SiteRouter.Plan.Failover

/-!
# Positions of uplinks

The position of an uplink goes into the names of its table and of its PPPoE client, so that names
tell uplinks apart exactly as positions do. The lemmas here also turn lists of numbered uplinks into
statements about the uplink at an index of the list.
-/

namespace SiteRouter

/-- A numbered uplink is the uplink at that index, counted from one. -/
theorem Site.mem_placedUplinks {s : Site} {i : Nat} {u : Uplink} :
    (i, u) ∈ s.placedUplinks ↔ ∃ k, s.uplinks[k]? = some u ∧ i = k + 1 := by
  rw [placedUplinks, List.mem_map]
  constructor
  · rintro ⟨⟨v, k⟩, hv, h⟩
    obtain ⟨rfl, rfl⟩ := Prod.mk.inj h
    exact ⟨k, List.mem_zipIdx_iff_getElem?.mp hv, rfl⟩
  · rintro ⟨k, hk, rfl⟩
    exact ⟨(u, k), List.mem_zipIdx_iff_getElem?.mpr hk, rfl⟩

theorem Site.map_snd_placedUplinks (s : Site) : s.placedUplinks.map Prod.snd = s.uplinks := by
  rw [placedUplinks, List.map_map]
  exact List.zipIdx_map_fst 0 s.uplinks

/-- The uplink at an index is numbered by its position. -/
theorem Site.getElem?_placedUplinks {s : Site} {k : Nat} {u : Uplink} (h : s.uplinks[k]? = some u) :
    s.placedUplinks[k]? = some (k + 1, u) := by
  rw [placedUplinks, List.getElem?_map, List.getElem?_zipIdx, h]
  simp

/-- Positions are given once. -/
theorem Site.nodup_positions (s : Site) : (s.placedUplinks.map Prod.fst).Nodup := by
  have hpositions : s.placedUplinks.map Prod.fst = (s.uplinks.zipIdx.map Prod.snd).map (· + 1) := by
    rw [placedUplinks, List.map_map, List.map_map]
    rfl
  rw [hpositions, List.zipIdx_map_snd, List.Nodup, List.pairwise_map]
  exact (List.nodup_range' 1).imp fun hne heq => hne (Nat.succ.inj heq)

/-- A number is read back from how it is written. -/
theorem ofDigitChars_toString (n : Nat) : Nat.ofDigitChars 10 (toString n).toList 0 = n := by
  rw [show toString n = Nat.repr n from rfl, Nat.toList_repr, Nat.ofDigitChars_ten_toDigits]

theorem toString_injective {m n : Nat} (h : toString m = toString n) : m = n := by
  rw [← ofDigitChars_toString m, h, ofDigitChars_toString n]

/-- Numbers behind the same text are told apart. -/
theorem append_toString_injective {front : String} {m n : Nat}
    (h : front ++ toString m = front ++ toString n) : m = n :=
  toString_injective ((String.append_right_inj front).mp h)

/-- Uplinks at different positions have different clients. -/
theorem pppoeInterface_injective {i j : Nat} (h : pppoeInterface i = pppoeInterface j) : i = j :=
  append_toString_injective h

/-- Uplinks at different positions have different tables. -/
theorem routingTable_injective {i j : Nat} (h : routingTable i = routingTable j) : i = j :=
  append_toString_injective h

end SiteRouter
