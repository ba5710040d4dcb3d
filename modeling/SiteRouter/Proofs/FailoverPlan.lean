import SiteRouter.Proofs.Positions
import SiteRouter.Proofs.Surveying

/-!
# What a failover plan holds

The plan numbers its uplinks by their positions in the whole list, and yet holds only those that
are routed, so that the two numberings drift apart at every DHCP uplink. `Failover.IsFor` is the
plan in terms of the list alone: which positions it has, the three routes at each, and one backup
for every other position.

* `Failover.plan_isFor` — the plan that is made is that one;
* `Failover.IsFor.backup_distances`, `Failover.IsFor.main_distances` — in every table, and in the
  main table, the distances put the routes in one order.
-/

namespace SiteRouter

/-! ## The plan of a list of uplinks -/

/-- The next hop of an uplink of its own: the gateway of a static uplink, the client of a PPPoE
uplink. -/
inductive Uplink.HasGateway (u : Uplink) (position : Nat) : Gateway → Prop where
  | address (address : Option Cidr) (gateway : Ipv4)
      (kind : u.kind = .static address (some gateway)) : u.HasGateway position (.address gateway)
  | client (username password : Option String) (kind : u.kind = .pppoe username password) :
      u.HasGateway position (.interface s!"pppoe-out{position}")

/-- The routes are those of the uplink at their position, leaving the backups aside. -/
structure UplinkRoutes.IsFor (uplinks : List Uplink) (probes : List Ipv4) (r : UplinkRoutes) :
    Prop where
  placed : ∃ k u, r.position = k + 1 ∧ uplinks[k]? = some u ∧ probes[k]? = some r.probe ∧
    r.uplink = u.id ∧ u.HasGateway r.position r.gateway
  table_eq : r.table = s!"to-wan{r.position}"
  /-- The probe is pinned to the gateway of the uplink. -/
  hostRoute_eq : r.hostRoute = {
    destination := ⟨r.probe, 32, Nat.le_refl 32⟩
    gateway := r.gateway
    table := none
    distance := none
    scope := some 10
    targetScope := none
    checkGateway := false
    comment := s!"probe {r.uplink}" }
  tableDefault_eq : r.tableDefault = {
    destination := .everything
    gateway := .address r.probe
    table := some r.table
    distance := none
    scope := none
    targetScope := some 11
    checkGateway := true
    comment := s!"{r.table} default" }
  mainDefault_eq : r.mainDefault = {
    destination := .everything
    gateway := .address r.probe
    table := none
    distance := some r.position
    scope := none
    targetScope := some 11
    checkGateway := true
    comment := s!"{r.uplink} primary" }

/-- The default route through an uplink in the table of another one. -/
def UplinkRoutes.backupThrough (r other : UplinkRoutes) : Route where
  destination := .everything
  gateway := other.gateway
  table := some r.table
  distance := some (other.position + 2)
  scope := none
  targetScope := none
  checkGateway := false
  comment := s!"{r.table} backup via {other.uplink}"

/-- The plan has the uplinks that have a probe and are not configured by DHCP, each with its routes
and with a backup through every other one. -/
structure Failover.IsFor (uplinks : List Uplink) (probes : List Ipv4) (f : Failover) : Prop where
  positions_eq : f.uplinks.map (·.position) =
    (List.range' 1 (min uplinks.length probes.length)).filter fun i =>
      uplinks[i - 1]?.any fun u => decide (u.kind ≠ .dhcp)
  routes_isFor : ∀ r ∈ f.uplinks, r.IsFor uplinks probes
  backups_eq : ∀ r ∈ f.uplinks, r.backups =
    (f.uplinks.filter (·.position != r.position)).map r.backupThrough

namespace Failover

variable {uplinks : List Uplink} {probes : List Ipv4} {overflow : Overflow} {f : Failover}

/-! ## Distances -/

namespace IsFor

theorem positions_ascending (h : f.IsFor uplinks probes) :
    (f.uplinks.map (·.position)).Pairwise (· < ·) := by
  rw [h.positions_eq]
  exact List.Pairwise.filter _ List.pairwise_lt_range'

theorem positions_nodup (h : f.IsFor uplinks probes) : (f.uplinks.map (·.position)).Nodup :=
  h.positions_ascending.imp Nat.ne_of_lt

/-- A table has one backup fewer than there are uplinks, in ascending distances that leave out the
one the uplink itself would have. -/
theorem backup_distances (h : f.IsFor uplinks probes) {r : UplinkRoutes} (hr : r ∈ f.uplinks) :
    ∃ distances : List Nat, r.backups.map (·.distance) = distances.map some ∧
      distances.length = f.uplinks.length - 1 ∧ distances.Pairwise (· < ·) ∧
      ∀ d ∈ distances, 3 ≤ d ∧ d ≠ r.position + 2 := by
  let others := (f.uplinks.map (·.position)).filter (· != r.position)
  refine ⟨others.map (· + 2), ?_, ?_, ?_, ?_⟩
  · have hothers : others = (f.uplinks.filter (·.position != r.position)).map (·.position) :=
      List.filter_map
    rw [h.backups_eq r hr, hothers, List.map_map, List.map_map, List.map_map]
    rfl
  · have herase : others = (f.uplinks.map (·.position)).erase r.position :=
      (h.positions_nodup.erase_eq_filter r.position).symm
    rw [List.length_map, herase, List.length_erase_of_mem (List.mem_map.mpr ⟨r, hr, rfl⟩),
      List.length_map]
  · rw [List.pairwise_map]
    exact (h.positions_ascending.filter _).imp fun hlt => Nat.add_lt_add_right hlt 2
  · intro d hd
    obtain ⟨i, hi, rfl⟩ := List.mem_map.mp hd
    obtain ⟨hi, hne⟩ := List.mem_filter.mp hi
    rw [h.positions_eq] at hi
    have hpos := (List.mem_range'_1.mp (List.mem_filter.mp hi).1).1
    have hne := bne_iff_ne.mp hne
    omega

theorem main_distances (h : f.IsFor uplinks probes) :
    (f.uplinks.map (·.mainDefault.distance)).Nodup := by
  have hdistance : f.uplinks.map (·.mainDefault.distance) =
      (f.uplinks.map (·.position)).map some := by
    rw [List.map_map]
    refine List.map_congr_left fun r hr => ?_
    rw [(h.routes_isFor r hr).mainDefault_eq]
    rfl
  rw [hdistance, List.Nodup, List.pairwise_map]
  exact h.positions_nodup.imp fun hne heq => hne (Option.some.inj heq)

end IsFor

/-! ## Hops -/

theorem gateway?_eq_some_iff {u : Uplink} {position : Nat} {gateway : Gateway} :
    u.gateway? position = some gateway ↔ u.HasGateway position gateway := by
  unfold Uplink.gateway?
  constructor
  · intro h
    cases hkind : u.kind with
    | pppoe username password =>
      rw [hkind] at h
      obtain rfl := Option.some.inj h
      exact .client username password hkind
    | «static» address own =>
      rw [hkind] at h
      obtain ⟨own, rfl, rfl⟩ := Option.map_eq_some_iff.mp h
      exact .address address own hkind
    | dhcp =>
      rw [hkind] at h
      exact absurd h (by simp)
  · rintro (⟨address, own, hkind⟩ | ⟨username, password, hkind⟩)
    · rw [hkind]
      rfl
    · rw [hkind]
      rfl

theorem mem_placed {u : Uplink} {probe : Ipv4} {i : Nat} :
    ((u, probe), i) ∈ placed uplinks probes ↔
      ∃ k, i = k + 1 ∧ uplinks[k]? = some u ∧ probes[k]? = some probe := by
  rw [placed, List.mk_mem_zipIdx_iff_le_and_getElem?_sub, List.getElem?_zip_eq_some]
  constructor
  · rintro ⟨hi, hu, hprobe⟩
    exact ⟨i - 1, by omega, hu, hprobe⟩
  · rintro ⟨k, rfl, hu, hprobe⟩
    exact ⟨by omega, hu, hprobe⟩

theorem mem_hops {h : Hop} : h ∈ hops uplinks probes ↔
    ∃ k, h.position = k + 1 ∧ uplinks[k]? = some h.uplink ∧ probes[k]? = some h.probe ∧
      h.uplink.HasGateway h.position h.gateway := by
  rw [hops, List.mem_filterMap]
  constructor
  · rintro ⟨⟨⟨u, probe⟩, i⟩, hmem, hsome⟩
    obtain ⟨gateway, hgateway, rfl⟩ := Option.map_eq_some_iff.mp hsome
    obtain ⟨k, hk, hu, hprobe⟩ := mem_placed.mp hmem
    exact ⟨k, hk, hu, hprobe, gateway?_eq_some_iff.mp hgateway⟩
  · rintro ⟨k, hk, hu, hprobe, hgateway⟩
    exact ⟨((h.uplink, h.probe), h.position), mem_placed.mpr ⟨k, hk, hu, hprobe⟩,
      Option.map_eq_some_iff.mpr ⟨h.gateway, gateway?_eq_some_iff.mpr hgateway, rfl⟩⟩

/-- What is read off the hops is read off the uplinks that have a gateway. -/
theorem map_hops {β : Type} {g : Hop → β} {k : (Uplink × Ipv4) × Nat → β}
    (h : ∀ hop : Hop, g hop = k ((hop.uplink, hop.probe), hop.position)) :
    (hops uplinks probes).map g =
      ((placed uplinks probes).filter fun x => (x.1.1.gateway? x.2).isSome).map k := by
  rw [hops, List.map_filterMap, ← List.filterMap_eq_map, List.filterMap_filter]
  refine congrArg (List.filterMap · (placed uplinks probes)) (funext fun ⟨⟨u, probe⟩, i⟩ => ?_)
  cases hgateway : u.gateway? i with
  | none => simp [hop?, hgateway]
  | some gateway => simp [hop?, hgateway, h]

/-- Where nothing is lacking, the hops are at the positions with a probe and without DHCP. -/
theorem positions_hops (hsound : ∀ u ∈ uplinks.take probes.length, u.error? = none) :
    (hops uplinks probes).map (·.position) =
      (List.range' 1 (min uplinks.length probes.length)).filter fun i =>
        uplinks[i - 1]?.any fun u => decide (u.kind ≠ .dhcp) := by
  have hrange : (placed uplinks probes).map Prod.snd =
      List.range' 1 (min uplinks.length probes.length) := by
    rw [placed, List.zipIdx_map_snd, List.length_zip]
  rw [map_hops (k := Prod.snd) fun _ => rfl, ← hrange, List.filter_map]
  refine congrArg (List.map Prod.snd) (List.filter_congr fun ⟨⟨u, probe⟩, i⟩ hmem => ?_)
  obtain ⟨k, rfl, hu, hprobe⟩ := mem_placed.mp hmem
  have hk : k < probes.length := (List.getElem?_eq_some_iff.mp hprobe).1
  have hu' : u ∈ uplinks.take probes.length :=
    List.mem_of_getElem? (i := k) (by rw [List.getElem?_take_of_lt hk, hu])
  rw [Function.comp, Nat.add_sub_cancel, hu]
  exact isSome_gateway? (hsound u hu')

/-! ## Plans -/

theorem plan_eq_ok_iff : plan uplinks probes overflow = .ok f ↔
    overflows uplinks probes overflow = false ∧
      (uplinks.take probes.length).findSome? Uplink.error? = none ∧
      ⟨(hops uplinks probes).map (routesOf (hops uplinks probes)),
        (dropped uplinks probes ++ unsupported uplinks probes).map Uplink.id⟩ = f := by
  rw [plan_eq]
  cases overflows uplinks probes overflow with
  | true => exact iff_of_false nofun (by simp)
  | false => simp only [Bool.false_eq_true, if_false, elim_refusal_eq_ok, true_and]

/-- What the making of a plan comes to. -/
theorem of_plan_eq_ok (h : plan uplinks probes overflow = .ok f) :
    (∀ u ∈ uplinks.take probes.length, u.error? = none) ∧
      f.uplinks = (hops uplinks probes).map (routesOf (hops uplinks probes)) := by
  obtain ⟨-, hsound, rfl⟩ := plan_eq_ok_iff.mp h
  exact ⟨List.findSome?_eq_none_iff.mp hsound, rfl⟩

/-- The plan lists the uplinks that it leaves out. -/
theorem skipped_of_plan_eq_ok (h : plan uplinks probes overflow = .ok f) :
    f.skipped = (dropped uplinks probes ++ unsupported uplinks probes).map Uplink.id := by
  obtain ⟨-, -, rfl⟩ := plan_eq_ok_iff.mp h
  rfl

theorem isFor_of_plan_eq_ok (h : plan uplinks probes overflow = .ok f) :
    f.IsFor uplinks probes := by
  obtain ⟨hsound, hf⟩ := of_plan_eq_ok h
  refine ⟨?_, ?_, ?_⟩
  · rw [hf, List.map_map]
    exact positions_hops hsound
  · intro r hr
    rw [hf] at hr
    obtain ⟨hop, hhop, rfl⟩ := List.mem_map.mp hr
    obtain ⟨k, hk, hu, hprobe, hgateway⟩ := mem_hops.mp hhop
    exact ⟨⟨k, hop.uplink, hk, hu, hprobe, rfl, hgateway⟩, rfl, rfl, rfl, rfl⟩
  · intro r hr
    rw [hf] at hr ⊢
    obtain ⟨hop, hhop, rfl⟩ := List.mem_map.mp hr
    rw [List.filter_map, List.map_map]
    rfl

/-- **The plan is the one for its uplinks and probes**, and so its routes are in one order in every
table: the backups of an uplink, one for each other uplink, in ascending distances above that of
its own default, and the defaults of the main table in distances of their own. -/
theorem plan_isFor (h : plan uplinks probes overflow = .ok f) :
    f.IsFor uplinks probes ∧
      (∀ r ∈ f.uplinks, ∃ distances : List Nat, r.backups.map (·.distance) = distances.map some ∧
        distances.length = f.uplinks.length - 1 ∧ distances.Pairwise (· < ·) ∧
        ∀ d ∈ distances, 3 ≤ d ∧ d ≠ r.position + 2) ∧
      (f.uplinks.map (·.mainDefault.distance)).Nodup := by
  have hf := isFor_of_plan_eq_ok h
  exact ⟨hf, fun r hr => hf.backup_distances hr, hf.main_distances⟩

/-- A plan with a DHCP uplink in the middle and an uplink beyond the probes. -/
theorem plan_isFor_of_mixed_uplinks :
    let uplinks : List Uplink := [
      ⟨"fibre", "ether1", .static (some ⟨⟨0x0a000002, by decide⟩, 30, by decide⟩)
        (some ⟨0x0a000001, by decide⟩)⟩,
      ⟨"cable", "ether2", .dhcp⟩,
      ⟨"dsl", "ether3", .pppoe (some "user") none⟩,
      ⟨"spare", "ether4", .dhcp⟩]
    let probes : List Ipv4 := [⟨0x01010101, by decide⟩, ⟨0x08080808, by decide⟩,
      ⟨0x09090909, by decide⟩]
    ∃ f, plan uplinks probes .truncate = .ok f ∧ f.uplinks.map (·.position) = [1, 3] ∧
      f.IsFor uplinks probes := by
  intro uplinks probes
  have h : plan uplinks probes .truncate = .ok _ := rfl
  exact ⟨_, h, rfl, (plan_isFor h).1⟩

end Failover

end SiteRouter
