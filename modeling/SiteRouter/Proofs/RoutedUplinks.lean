import SiteRouter.Proofs.FailoverPlan

/-!
# Routed uplinks

Which uplinks have routes can be told without a plan: those with a probe that are not configured by
DHCP (`IsRouted`). This file reads the answers of a plan in those terms: how many uplinks it routes
(`Failover.IsFor.length_uplinks`), which one comes first (`Failover.IsFor.isFirst_head`), and what
table it finds under the id of an uplink (`Failover.IsFor.table?_eq_some_iff`).
-/

namespace SiteRouter

/-- There is a probe for the uplink at the index, and the uplink is not configured by DHCP. -/
def IsRouted (uplinks : List Uplink) (probes : List Ipv4) (k : Nat) (u : Uplink) : Prop :=
  uplinks[k]? = some u ∧ k < probes.length ∧ u.kind ≠ .dhcp

/-- How many uplinks are routed. -/
def routedCount (uplinks : List Uplink) (probes : List Ipv4) : Nat :=
  (uplinks.take probes.length).countP fun u => decide (u.kind ≠ .dhcp)

/-! ## Keys -/

section Keys

variable {α β : Type} {f : α → β} {xs : List α} {x y : α}

/-- Where keys are distinct, a key is found at one index alone. -/
theorem eq_of_getElem?_of_nodup (h : (xs.map f).Nodup) {i j : Nat} (hi : xs[i]? = some x)
    (hj : xs[j]? = some y) (hxy : f x = f y) : i = j := by
  have hlt : i < (xs.map f).length := by
    rw [List.length_map]
    exact (List.getElem?_eq_some_iff.mp hi).1
  refine (List.getElem?_inj hlt h).mp ?_
  rw [List.getElem?_map, List.getElem?_map, hi, hj, Option.map_some, Option.map_some, hxy]

theorem eq_of_mem_of_nodup (h : (xs.map f).Nodup) (hx : x ∈ xs) (hy : y ∈ xs)
    (hxy : f x = f y) : x = y := by
  obtain ⟨i, hi⟩ := List.mem_iff_getElem?.mp hx
  obtain ⟨j, hj⟩ := List.mem_iff_getElem?.mp hy
  obtain rfl := eq_of_getElem?_of_nodup h hi hj hxy
  exact Option.some.inj (hi.symm.trans hj)

theorem of_find?_eq_some [BEq β] [LawfulBEq β] {key : β}
    (h : xs.find? (fun x => f x == key) = some x) : x ∈ xs ∧ f x = key := by
  have hkey := List.find?_some h
  exact ⟨List.mem_of_find?_eq_some h, eq_of_beq hkey⟩

/-- Something is found under the key of an item. -/
theorem exists_find?_eq_some [BEq β] [LawfulBEq β] (hx : x ∈ xs) :
    ∃ y, xs.find? (fun y => f y == f x) = some y := by
  refine Option.isSome_iff_exists.mp ?_
  rw [List.find?_isSome]
  exact ⟨x, hx, beq_self_eq_true (f x)⟩

/-- Where only one item of a list gives anything, the list gives what that item does. -/
theorem flatMap_of_nodup {γ : Type} {g : α → List γ} (hnodup : (xs.map f).Nodup) (hx : x ∈ xs)
    (hothers : ∀ y ∈ xs, y ≠ x → g y = []) : xs.flatMap g = g x := by
  obtain ⟨front, back, rfl⟩ := List.append_of_mem hx
  rw [List.map_append, List.map_cons, List.nodup_append, List.nodup_cons] at hnodup
  obtain ⟨-, ⟨hback, -⟩, hfront⟩ := hnodup
  have hfrontNil : front.flatMap g = [] := by
    refine List.flatMap_eq_nil_iff.mpr fun y hy => hothers y (List.mem_append_left _ hy) ?_
    rintro rfl
    exact hfront (f y) (List.mem_map.mpr ⟨y, hy, rfl⟩) (f y) (List.mem_cons_self ..) rfl
  have hbackNil : back.flatMap g = [] := by
    refine List.flatMap_eq_nil_iff.mpr fun y hy =>
      hothers y (List.mem_append_right _ (List.mem_cons_of_mem _ hy)) ?_
    rintro rfl
    exact hback (List.mem_map.mpr ⟨y, hy, rfl⟩)
  rw [List.flatMap_append, List.flatMap_cons, hfrontNil, hbackNil, List.nil_append, List.append_nil]

/-- A list in which some items give one thing each and the others nothing. -/
theorem flatMap_ite {p : α → Bool} {g : α → β} (xs : List α) :
    (xs.flatMap fun x => if p x then [g x] else []) = (xs.filter p).map g := by
  induction xs with
  | nil => rfl
  | cons x xs ih =>
    rw [List.flatMap_cons, ih]
    cases h : p x <;> simp [h]

/-- Of items with distinct keys, only one passes a test that tells its key. -/
theorem filter_map_of_nodup {γ : Type} {g : α → γ} {q : γ → Bool} (hnodup : (xs.map f).Nodup)
    (hx : x ∈ xs) (hpass : q (g x) = true) (hkey : ∀ y ∈ xs, q (g y) = true → f y = f x) :
    (xs.map g).filter q = [g x] := by
  have hothers : ∀ y ∈ xs, y ≠ x → (if q (g y) then [g y] else []) = [] := by
    intro y hy hne
    refine if_neg fun hq => hne ?_
    exact eq_of_mem_of_nodup hnodup hy hx (hkey y hy hq)
  rw [List.filter_map, ← flatMap_ite, Function.comp_def, flatMap_of_nodup hnodup hx hothers,
    if_pos hpass]

/-- The same where only some items are there to be tested. -/
theorem filter_map_filter_of_nodup {γ : Type} {p : α → Bool} {g : α → γ} {q : γ → Bool}
    (hnodup : (xs.map f).Nodup) (hx : x ∈ xs) (hpass : q (g x) = true)
    (hkey : ∀ y ∈ xs, q (g y) = true → f y = f x) :
    ((xs.filter p).map g).filter q = if p x then [g x] else [] := by
  have hsub : (xs.filter p).Sublist xs := List.filter_sublist
  by_cases hp : p x = true
  · rw [if_pos hp]
    exact filter_map_of_nodup (hnodup.sublist (hsub.map f)) (List.mem_filter.mpr ⟨hx, hp⟩) hpass
      fun y hy => hkey y (hsub.subset hy)
  · rw [if_neg hp, List.filter_eq_nil_iff, List.forall_mem_map]
    intro y hy hq
    obtain ⟨hy, hpy⟩ := List.mem_filter.mp hy
    obtain rfl := eq_of_mem_of_nodup hnodup hy hx (hkey y hy hq)
    exact hp hpy

end Keys

namespace Failover.IsFor

variable {uplinks : List Uplink} {probes : List Ipv4} {f : Failover}

/-- The plan routes no other uplinks. -/
theorem isRouted_of_mem (h : f.IsFor uplinks probes) {r : UplinkRoutes} (hr : r ∈ f.uplinks) :
    ∃ k u, IsRouted uplinks probes k u ∧ r.position = k + 1 ∧ r.uplink = u.id ∧
      r.table = s!"to-wan{k + 1}" := by
  have hroutes := h.routes_isFor r hr
  obtain ⟨k, u, hk, hu, hprobe, hid, hgateway⟩ := hroutes.placed
  have hkind : u.kind ≠ .dhcp := by
    intro hdhcp
    generalize r.gateway = gateway at hgateway
    cases hgateway with
    | address address gateway hkind => rw [hkind] at hdhcp; exact nomatch hdhcp
    | client username password hkind => rw [hkind] at hdhcp; exact nomatch hdhcp
  refine ⟨k, u, ⟨hu, (List.getElem?_eq_some_iff.mp hprobe).1, hkind⟩, hk, hid, ?_⟩
  rw [hroutes.table_eq, hk]

/-- The plan routes every such uplink. -/
theorem exists_mem (h : f.IsFor uplinks probes) {k : Nat} {u : Uplink}
    (hu : IsRouted uplinks probes k u) :
    ∃ r ∈ f.uplinks, r.position = k + 1 ∧ r.uplink = u.id ∧ r.table = s!"to-wan{k + 1}" := by
  have hposition : k + 1 ∈ f.uplinks.map (·.position) := by
    have hlt := (List.getElem?_eq_some_iff.mp hu.1).1
    have hprobe := hu.2.1
    rw [h.positions_eq, List.mem_filter, List.mem_range'_1, Nat.add_sub_cancel, hu.1]
    exact ⟨by omega, decide_eq_true hu.2.2⟩
  obtain ⟨r, hr, hk⟩ := List.mem_map.mp hposition
  obtain ⟨j, v, hv, hj, hid, htable⟩ := h.isRouted_of_mem hr
  obtain rfl : j = k := by omega
  obtain rfl : v = u := Option.some.inj (hv.1.symm.trans hu.1)
  exact ⟨r, hr, hk, hid, htable⟩

/-- The plan has as many uplinks as are routed. -/
theorem length_uplinks (h : f.IsFor uplinks probes) :
    f.uplinks.length = routedCount uplinks probes := by
  let placed := (uplinks.take probes.length).zipIdx 1
  have hpositions : List.range' 1 (min uplinks.length probes.length) = placed.map Prod.snd := by
    rw [List.zipIdx_map_snd, List.length_take, Nat.min_comm]
  have huplinks : uplinks.take probes.length = placed.map Prod.fst :=
    (List.zipIdx_map_fst 1 _).symm
  rw [← List.length_map (·.position), h.positions_eq, ← List.countP_eq_length_filter, routedCount,
    hpositions, List.countP_map, huplinks, List.countP_map]
  refine List.countP_congr fun ⟨u, i⟩ hmem => ?_
  have hu : (uplinks.take probes.length)[i - 1]? = some u :=
    (List.mk_mem_zipIdx_iff_le_and_getElem?_sub.mp hmem).2
  have hlt := (List.getElem?_eq_some_iff.mp hu).1
  rw [List.length_take] at hlt
  rw [List.getElem?_take_of_lt (by omega)] at hu
  simp [hu]

/-- The plan begins with the first uplink that is routed. -/
theorem isFirst_head (h : f.IsFor uplinks probes) {r : UplinkRoutes} {rest : List UplinkRoutes}
    (hf : f.uplinks = r :: rest) :
    ∃ k u, IsRouted uplinks probes k u ∧ (∀ j v, j < k → ¬IsRouted uplinks probes j v) ∧
      r.uplink = u.id ∧ r.table = s!"to-wan{k + 1}" := by
  have hr : r ∈ f.uplinks := by
    rw [hf]
    exact List.mem_cons_self ..
  obtain ⟨k, u, hu, hk, hid, htable⟩ := h.isRouted_of_mem hr
  refine ⟨k, u, hu, ?_, hid, htable⟩
  intro j v hjk hv
  obtain ⟨q, hq, hj, -, -⟩ := h.exists_mem hv
  have hascending := h.positions_ascending
  rw [hf, List.map_cons, List.pairwise_cons] at hascending
  rw [hf] at hq
  rcases List.mem_cons.mp hq with rfl | hq
  · omega
  · have hlt := hascending.1 q.position (List.mem_map.mpr ⟨q, hq, rfl⟩)
    omega

/-- The table under an id is that of the uplink with the id, by its position. -/
theorem table?_eq_some_iff (h : f.IsFor uplinks probes) (hids : (uplinks.map (·.id)).Nodup)
    {id table : String} : f.table? id = some table ↔
      ∃ k u, IsRouted uplinks probes k u ∧ u.id = id ∧ table = s!"to-wan{k + 1}" := by
  rw [table?, Option.map_eq_some_iff]
  constructor
  · rintro ⟨r, hr, rfl⟩
    obtain ⟨hmem, hfound⟩ := of_find?_eq_some hr
    obtain ⟨k, u, hu, -, hid, htable⟩ := h.isRouted_of_mem hmem
    exact ⟨k, u, hu, hid.symm.trans hfound, htable⟩
  · rintro ⟨k, u, hu, rfl, rfl⟩
    obtain ⟨r, hr, -, hid, -⟩ := h.exists_mem hu
    rw [← hid]
    obtain ⟨q, hq⟩ := exists_find?_eq_some (f := UplinkRoutes.uplink) hr
    obtain ⟨hmem, hfound⟩ := of_find?_eq_some hq
    obtain ⟨j, v, hv, -, hqid, htable⟩ := h.isRouted_of_mem hmem
    obtain rfl : j = k :=
      eq_of_getElem?_of_nodup hids hv.1 hu.1 (hqid.symm.trans (hfound.trans hid))
    exact ⟨q, hq, htable⟩

/-- There is no table under the id of an uplink that is not routed. -/
theorem table?_eq_none_iff (h : f.IsFor uplinks probes) {id : String} :
    f.table? id = none ↔ ∀ k u, IsRouted uplinks probes k u → u.id ≠ id := by
  rw [table?, Option.map_eq_none_iff, List.find?_eq_none]
  constructor
  · rintro hnone k u hu rfl
    obtain ⟨r, hr, -, hid, -⟩ := h.exists_mem hu
    exact hnone r hr (beq_iff_eq.mpr hid)
  · intro hnone r hr hfound
    obtain ⟨k, u, hu, -, hid, -⟩ := h.isRouted_of_mem hr
    exact hnone k u hu (hid.symm.trans (beq_iff_eq.mp hfound))

/-- The plan names the uplinks that are routed. -/
theorem mem_ids_iff (h : f.IsFor uplinks probes) (hids : (uplinks.map (·.id)).Nodup)
    {k : Nat} {u : Uplink} (hk : uplinks[k]? = some u) :
    u.id ∈ f.uplinks.map (·.uplink) ↔ k < probes.length ∧ u.kind ≠ .dhcp := by
  rw [List.mem_map]
  constructor
  · intro ⟨r, hr, hid⟩
    obtain ⟨j, v, hv, -, hvid, -⟩ := h.isRouted_of_mem hr
    obtain rfl := eq_of_getElem?_of_nodup hids hv.1 hk (hvid.symm.trans hid)
    obtain rfl : v = u := Option.some.inj (hv.1.symm.trans hk)
    exact hv.2
  · intro hrouted
    obtain ⟨r, hr, -, hid, -⟩ := h.exists_mem ⟨hk, hrouted⟩
    exact ⟨r, hr, hid⟩

end Failover.IsFor

/-- The uplinks that are skipped are those without an entry. -/
theorem Failover.skipped_perm {uplinks : List Uplink} {probes : List Ipv4} {overflow : Overflow}
    {f : Failover} (h : plan uplinks probes overflow = .ok f)
    (hids : (uplinks.map (·.id)).Nodup) :
    f.skipped.Perm ((uplinks.filter fun u => decide (u.id ∉ f.uplinks.map (·.uplink))).map
      Uplink.id) := by
  have hf := isFor_of_plan_eq_ok h
  have htake : (uplinks.take probes.length).filter (fun u =>
      decide (u.id ∉ f.uplinks.map (·.uplink))) = unsupported uplinks probes := by
    refine List.filter_congr fun u hu => ?_
    obtain ⟨k, hk⟩ := List.mem_iff_getElem?.mp hu
    rw [List.getElem?_take] at hk
    split at hk
    next hlt =>
      simp only [hf.mem_ids_iff hids hk, hlt, true_and]
      cases u.kind <;> simp [UplinkKind.isRoutable]
    next => exact nomatch hk
  have hdrop : (uplinks.drop probes.length).filter (fun u =>
      decide (u.id ∉ f.uplinks.map (·.uplink))) = dropped uplinks probes := by
    refine List.filter_eq_self.mpr fun u hu => decide_eq_true ?_
    obtain ⟨k, hk⟩ := List.mem_iff_getElem?.mp hu
    rw [List.getElem?_drop] at hk
    rw [hf.mem_ids_iff hids hk]
    omega
  rw [skipped_of_plan_eq_ok h, ← hdrop, ← htake]
  refine List.Perm.map _ (List.perm_append_comm.trans ?_)
  rw [← List.filter_append, List.take_append_drop]

end SiteRouter
