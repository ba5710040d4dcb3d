import SiteRouter.Proofs.Compilation
import SiteRouter.Proofs.References

/-!
# What a script creates

Section by section, this file lists the entries that the commands of a script create
(`Blueprint.created_script`). Their names come from the names of networks and the positions of
uplinks, and the two ways to name a pool never meet, so that no entry is created twice
(`Blueprint.nodup_created`).
-/

namespace SiteRouter

open Script

/-! ## Entries -/

theorem created_flatMap {α : Type} {f : α → List Command} (xs : List α) :
    created (xs.flatMap f) = xs.flatMap fun x => created (f x) := List.flatMap_assoc

theorem created_map {α : Type} {f : α → Command} {g : α → String × String}
    (h : ∀ x, (f x).creations = [g x]) (xs : List α) : created (xs.map f) = xs.map g := by
  rw [created, List.flatMap_map, List.map_eq_flatMap]
  simp only [h]

/-- Commands that create nothing. -/
theorem created_eq_nil {cs : List Command} (h : ∀ c ∈ cs, c.creations = []) : created cs = [] :=
  List.flatMap_eq_nil_iff.mpr h

/-- The client of an uplink, if it has one. -/
def Uplink.clients (u : Uplink) (position : Nat) : List (String × String) :=
  match u.kind with
  | .pppoe .. => [("/interface pppoe-client", pppoeInterface position)]
  | .static .. | .dhcp => []

theorem Uplink.eq_of_mem_clients {u : Uplink} {position : Nat} {e : String × String}
    (he : e ∈ u.clients position) : e = ("/interface pppoe-client", pppoeInterface position) := by
  unfold clients at he
  split at he
  · exact List.mem_singleton.mp he
  · exact absurd he List.not_mem_nil
  · exact absurd he List.not_mem_nil

/-- Only a PPPoE uplink has a client. -/
theorem Uplink.isPppoe_of_mem_clients {u : Uplink} {position : Nat} {e : String × String}
    (he : e ∈ u.clients position) : ∃ username password, u.kind = .pppoe username password := by
  unfold clients at he
  split at he
  next username password hkind => exact ⟨username, password, hkind⟩
  next => exact absurd he List.not_mem_nil
  next => exact absurd he List.not_mem_nil

theorem Uplink.mem_clients {u : Uplink} {username password : Option String} (position : Nat)
    (hkind : u.kind = .pppoe username password) :
    ("/interface pppoe-client", pppoeInterface position) ∈ u.clients position := by
  rw [clients, hkind]
  exact List.mem_singleton_self _

theorem Uplink.creations_bringUp (u : Uplink) (position : Nat) :
    (u.bringUp position).creations = u.clients position := by
  unfold bringUp clients egress
  cases u.kind with
  | pppoe username password => cases username <;> cases password <;> rfl
  | «static» address gateway => cases address <;> rfl
  | dhcp => rfl

theorem Route.creations_command (r : Route) : r.command.creations = [] := by
  unfold command
  cases r.table <;> cases r.distance <;> cases r.scope <;> cases r.targetScope <;>
    cases r.checkGateway <;> rfl

theorem UplinkRoutes.created_commands (r : UplinkRoutes) :
    created r.commands = [("/routing table", r.table)] := by
  have hroutes : created (r.routes.map Route.command) = [] := by
    refine created_eq_nil fun c hc => ?_
    obtain ⟨route, -, rfl⟩ := List.mem_map.mp hc
    exact route.creations_command
  rw [commands, created_cons, hroutes]
  rfl

/-- The entries that serve a network. -/
def Network.services (n : Network) : List (String × String) :=
  if n.dhcp then
    [("/ip pool", n.poolName), ("/ip dhcp-server", s!"dhcp-{n.name}")] ++
    if n.hotspot then
      [("/ip hotspot profile", n.hotspotProfile), ("/ip hotspot", s!"hotspot-{n.name}")]
    else []
  else []

theorem Network.created_commands (n : Network) (profile : Profile) (resolver : Resolver) :
    created (n.commands profile resolver) = n.services := by
  unfold commands services
  cases n.dhcp with
  | false => rfl
  | true => cases n.hotspot <;> rfl

namespace Blueprint

variable (b : Blueprint)

theorem created_deviceSection : created b.deviceSection.commands =
    [("/user", b.profile.adminUser)] := by
  have hidentity : created b.identityCommands = [] := by
    unfold identityCommands
    split <;> rfl
  have haccount : b.accountCommand.creations = [("/user", b.profile.adminUser)] := by
    unfold accountCommand
    cases b.site.management.adminPassword <;> rfl
  have hservice : created b.serviceCommands = [] := by
    refine created_eq_nil fun c hc => ?_
    rcases List.mem_append.mp hc with hc | hc
    · obtain ⟨name, -, rfl⟩ := List.mem_map.mp hc
      rfl
    · obtain rfl := List.mem_singleton.mp hc
      split <;> rfl
  rw [commands_deviceSection, created_append, created_cons, hidentity, haccount, hservice]
  rfl

theorem created_bridgeSection : created b.bridgeSection.commands =
    ("/interface bridge", b.plan.vlans.bridge) ::
      b.site.networks.map fun n => ("/interface vlan", n.name) := by
  have hports : created (b.plan.vlans.ports.map (·.command b.plan.vlans.bridge)) = [] := by
    refine created_eq_nil fun c hc => ?_
    obtain ⟨p, -, rfl⟩ := List.mem_map.mp hc
    rfl
  have hvlans : created (b.plan.vlans.vlans.map (·.command b.plan.vlans.bridge)) = [] := by
    refine created_eq_nil fun c hc => ?_
    obtain ⟨m, -, rfl⟩ := List.mem_map.mp hc
    rfl
  have hnetworks : created (b.site.networks.map (·.vlanCommand b.plan.vlans.bridge)) =
      b.site.networks.map fun n => ("/interface vlan", n.name) := created_map (fun _ => rfl) _
  rw [commands_bridgeSection, created_cons, created_append, created_append, hports, hnetworks,
    hvlans, List.append_nil]
  rfl

theorem created_uplinkSection : created b.uplinkSection.commands =
    ("/interface list", b.profile.wanList) ::
      (b.site.placedUplinks.flatMap (fun (i, u) => u.clients i) ++
        b.plan.failover.uplinks.map fun r => ("/routing table", r.table)) := by
  have hbringUp : ∀ x : Nat × Uplink, created [x.2.bringUp x.1,
      x.2.memberCommand b.profile.wanList x.1] = x.2.clients x.1 := by
    intro x
    rw [created_cons, Uplink.creations_bringUp]
    exact List.append_nil _
  rw [commands_uplinkSection, created_cons, created_append, created_flatMap, created_flatMap,
    List.map_eq_flatMap]
  simp only [hbringUp, UplinkRoutes.created_commands]
  rfl

theorem created_networkSection : created b.networkSection.commands =
    b.site.networks.flatMap Network.services := by
  rw [commands_networkSection, created_flatMap]
  simp only [Network.created_commands]

theorem created_firewallSection : created b.firewallSection.commands = [] := by
  refine created_eq_nil fun c hc => ?_
  rw [commands_firewallSection] at hc
  revert c
  simp [or_imp, forall_and, addressListCommands, addressEntry, inputRules, inputRule, markRules,
    prerouting, Mark.command, Command.creations, Command.names]

theorem created_masqueradeSection : created b.masqueradeSection.commands = [] := by
  refine created_eq_nil fun c hc => ?_
  rw [masqueradeSection, Section.commands_ofCommands] at hc
  rcases List.mem_cons.mp hc with rfl | hc
  · rfl
  · obtain ⟨n, -, rfl⟩ := List.mem_map.mp hc
    rfl

/-- What a script creates, in groups with the menus of their entries. -/
def groups : List (List String × List (String × String)) := [
  (["/user"], [("/user", b.profile.adminUser)]),
  (["/interface bridge"], [("/interface bridge", b.plan.vlans.bridge)]),
  (["/interface vlan"], b.site.networks.map fun n => ("/interface vlan", n.name)),
  (["/interface list"], [("/interface list", b.profile.wanList)]),
  (["/interface pppoe-client"], b.site.placedUplinks.flatMap fun (i, u) => u.clients i),
  (["/routing table"], b.plan.failover.uplinks.map fun r => ("/routing table", r.table)),
  (["/ip pool", "/ip dhcp-server", "/ip hotspot profile", "/ip hotspot"],
    b.site.networks.flatMap Network.services),
  (["/system script", "/system scheduler"], [("/system script", b.profile.heartbeatScript),
    ("/system scheduler", b.profile.heartbeatScript)])]

theorem created_script : created b.script.commands = b.groups.flatMap Prod.snd := by
  rw [commands_script]
  simp only [created_append, created_deviceSection, created_bridgeSection, created_uplinkSection,
    created_networkSection, created_firewallSection, created_masqueradeSection, groups,
    List.flatMap_cons, List.flatMap_nil, List.append_assoc, List.cons_append, List.nil_append]
  rfl

end Blueprint

/-! ## No entry is created twice -/

/-- Groups of entries from menus of their own. -/
theorem nodup_of_menus {groups : List (List String × List (String × String))}
    (hmenus : ∀ g ∈ groups, ∀ e ∈ g.2, e.1 ∈ g.1) (hnodup : ∀ g ∈ groups, g.2.Nodup)
    (hdisjoint : (groups.flatMap Prod.fst).Nodup) : (groups.flatMap Prod.snd).Nodup := by
  induction groups with
  | nil => exact List.nodup_nil
  | cons g groups ih =>
    rw [List.forall_mem_cons] at hmenus hnodup
    rw [List.flatMap_cons, List.nodup_append] at hdisjoint ⊢
    refine ⟨hnodup.1, ih hmenus.2 hnodup.2 hdisjoint.2.1, ?_⟩
    rintro e he _ he' rfl
    obtain ⟨g', hg', he'⟩ := List.mem_flatMap.mp he'
    exact hdisjoint.2.2 e.1 (hmenus.1 e he) e.1
      (List.mem_flatMap.mpr ⟨g', hg', hmenus.2 g' hg' e he'⟩) rfl

/-- Lists for items with distinct keys, in which an entry determines the key of its item. -/
theorem nodup_flatMap_of_key {α β κ : Type} {f : α → List β} {key : α → κ} {xs : List α}
    (hkeys : (xs.map key).Nodup) (hnodup : ∀ x, (f x).Nodup)
    (hkey : ∀ x y e, e ∈ f x → e ∈ f y → key x = key y) : (xs.flatMap f).Nodup := by
  induction xs with
  | nil => exact List.nodup_nil
  | cons x xs ih =>
    rw [List.map_cons, List.nodup_cons] at hkeys
    rw [List.flatMap_cons, List.nodup_append]
    refine ⟨hnodup x, ih hkeys.2, ?_⟩
    rintro e he _ he' rfl
    obtain ⟨y, hy, he'⟩ := List.mem_flatMap.mp he'
    exact hkeys.1 (List.mem_map.mpr ⟨y, hy, hkey y x e he' he⟩)

namespace Network

variable {m n : Network}

/-- A pool with a hotspot is never named like one without. -/
theorem hotspotPoolName_ne_plainPoolName : m.hotspotPoolName ≠ n.plainPoolName := by
  intro h
  have h := congrArg String.toList h
  unfold hotspotPoolName plainPoolName at h
  rw [String.toList_append, String.toList_append] at h
  exact absurd (List.cons.inj h).1 (by decide)

/-- Pools tell networks apart by their names. -/
theorem poolName_injective (h : m.poolName = n.poolName) : m.name = n.name := by
  unfold poolName at h
  split at h
  · split at h
    · exact (String.append_right_inj "hs-pool-").mp h
    · exact absurd h hotspotPoolName_ne_plainPoolName
  · split at h
    · exact absurd h.symm hotspotPoolName_ne_plainPoolName
    · exact (String.append_right_inj "pool-").mp h

theorem mem_services {e : String × String} (he : e ∈ n.services) :
    e = ("/ip pool", n.poolName) ∨ e = ("/ip dhcp-server", s!"dhcp-{n.name}") ∨
      e = ("/ip hotspot profile", n.hotspotProfile) ∨
      e = ("/ip hotspot", s!"hotspot-{n.name}") := by
  unfold services at he
  split at he
  · split at he
    · simpa using he
    · exact (by simpa using he : _ ∨ _).imp_right Or.inl
  · exact absurd he List.not_mem_nil

theorem nodup_services (n : Network) : n.services.Nodup := by
  unfold services
  split
  · split <;> simp
  · exact List.nodup_nil

theorem name_eq_of_mem_services {e : String × String} (hm : e ∈ m.services)
    (hn : e ∈ n.services) : m.name = n.name := by
  have hn := mem_services hn
  rcases mem_services hm with rfl | rfl | rfl | rfl
  · exact poolName_injective (by simpa using hn)
  · simpa [toString] using hn
  · simpa [hotspotProfile, toString] using hn
  · simpa [toString] using hn

end Network

/-- Clients belong to one menu. -/
theorem Site.menu_of_mem_clients {s : Site} {e : String × String}
    (he : e ∈ s.placedUplinks.flatMap fun (i, u) => u.clients i) :
    e.1 = "/interface pppoe-client" := by
  obtain ⟨⟨i, u⟩, -, he⟩ := List.mem_flatMap.mp he
  rw [Uplink.eq_of_mem_clients he]

/-- Clients are told apart by the positions of their uplinks. -/
theorem Site.nodup_clients (s : Site) :
    (s.placedUplinks.flatMap fun (i, u) => u.clients i).Nodup := by
  refine nodup_flatMap_of_key s.nodup_positions ?_ ?_
  · rintro ⟨i, u⟩
    show (u.clients i).Nodup
    unfold Uplink.clients
    split <;> simp
  · intro x y e hx hy
    have hxy := (Uplink.eq_of_mem_clients hx).symm.trans (Uplink.eq_of_mem_clients hy)
    exact pppoeInterface_injective (Prod.mk.inj hxy).2

namespace Blueprint

variable {b : Blueprint}

theorem nodup_tables (h : b.plan.failover.IsFor b.site.uplinks b.profile.probes) :
    (b.plan.failover.uplinks.map fun r => ("/routing table", r.table)).Nodup := by
  have htables : (b.plan.failover.uplinks.map fun r => ("/routing table", r.table)) =
      (b.plan.failover.uplinks.map (·.position)).map
        fun i => ("/routing table", routingTable i) := by
    rw [List.map_map]
    refine List.map_congr_left fun r hr => ?_
    rw [(h.routes_isFor r hr).table_eq]
    rfl
  rw [htables, List.Nodup, List.pairwise_map]
  exact h.positions_nodup.imp fun hne heq => hne (routingTable_injective (Prod.mk.inj heq).2)

/-- Every group keeps to its menus. -/
theorem menus_groups : ∀ g ∈ b.groups, ∀ e ∈ g.2, e.1 ∈ g.1 := by
  have hclients : ∀ e ∈ b.site.placedUplinks.flatMap (fun (i, u) => u.clients i),
      e.1 ∈ ["/interface pppoe-client"] :=
    fun _ he => List.mem_singleton.mpr (Site.menu_of_mem_clients he)
  have hservices : ∀ e ∈ b.site.networks.flatMap Network.services,
      e.1 ∈ ["/ip pool", "/ip dhcp-server", "/ip hotspot profile", "/ip hotspot"] := by
    intro e he
    obtain ⟨n, -, he⟩ := List.mem_flatMap.mp he
    rcases Network.mem_services he with rfl | rfl | rfl | rfl <;> simp
  simp only [groups, List.forall_mem_cons]
  refine ⟨by simp, by simp, ?_, by simp, hclients, ?_, hservices, by simp, by simp⟩
  · simp
  · simp

/-- No entry is created twice. -/
theorem nodup_created (h : b.IsSound) : (created b.script.commands).Nodup := by
  have hmenus : (b.groups.flatMap Prod.fst).Nodup := by
    show List.Nodup ["/user", "/interface bridge", "/interface vlan", "/interface list",
      "/interface pppoe-client", "/routing table", "/ip pool", "/ip dhcp-server",
      "/ip hotspot profile", "/ip hotspot", "/system script", "/system scheduler"]
    decide
  have hvlans : (b.site.networks.map fun n => ("/interface vlan", n.name)).Nodup := by
    have hnames := h.networks_nodup
    rw [List.Nodup, List.pairwise_map] at hnames ⊢
    exact hnames.imp fun hne heq => hne (Prod.mk.inj heq).2
  have hservices : (b.site.networks.flatMap Network.services).Nodup :=
    nodup_flatMap_of_key h.networks_nodup Network.nodup_services fun _ _ _ =>
      Network.name_eq_of_mem_services
  rw [created_script]
  refine nodup_of_menus menus_groups ?_ hmenus
  simp only [groups, List.forall_mem_cons]
  exact ⟨by simp, by simp, hvlans, by simp, b.site.nodup_clients, nodup_tables h.failover_isFor,
    hservices, by simp, by simp⟩

/-- One bridge is created, and no other. -/
theorem bridge_created_iff {name : String} :
    ("/interface bridge", name) ∈ created b.script.commands ↔ name = b.plan.vlans.bridge := by
  rw [created_script]
  constructor
  · intro h
    obtain ⟨g, hg, he⟩ := List.mem_flatMap.mp h
    have hmenu := menus_groups g hg _ he
    simp only [groups, List.mem_cons, List.not_mem_nil, or_false] at hg
    rcases hg with rfl | rfl | rfl | rfl | rfl | rfl | rfl | rfl
    · simp at hmenu
    · simpa using he
    all_goals simp at hmenu
  · rintro rfl
    simp [groups]

end Blueprint

end SiteRouter
