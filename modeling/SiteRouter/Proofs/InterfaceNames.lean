import SiteRouter.Proofs.Entries

/-!
# Names of interfaces

A script creates the bridge, a VLAN interface for every network and a client for every PPPoE uplink
(`Blueprint.interfaceNames_script`). Names of networks are checked against those of all other
interfaces, so that a VLAN interface never shares its name.

The names of the bridge, the ports and the clients are not checked against each other. So the
interfaces of a compiled script have names of their own exactly when the bridge is named neither
like a port nor like a client, and no port like a client (`Site.NamesApart`,
`compile_interfaceNames_distinct_iff`); `compile_interfaceNames_clash` is a site that compiles with
a bridge that is named like a port.
-/

namespace SiteRouter

open Script

/-- The menus in which interfaces are created. -/
def interfaceMenus : List String :=
  ["/interface bridge", "/interface vlan", "/interface pppoe-client"]

/-- The names of the interfaces that a script creates, in the order in which it creates them. -/
def Script.interfaceNames (s : Script) : List String :=
  ((created s.commands).filter fun e => interfaceMenus.contains e.1).map Prod.snd

/-- The names that are not checked against each other are different: the bridge is called neither
like a port nor like a client, and no port like a client. -/
structure Site.NamesApart (s : Site) (bridge : String) : Prop where
  bridge_not_port : ∀ p ∈ s.ports, p.name ≠ bridge
  bridge_not_client : ∀ k u username password, s.uplinks[k]? = some u →
    u.kind = .pppoe username password → bridge ≠ s!"pppoe-out{k + 1}"
  ports_not_client : ∀ p ∈ s.ports, ∀ k u username password, s.uplinks[k]? = some u →
    u.kind = .pppoe username password → p.name ≠ s!"pppoe-out{k + 1}"

/-- The names of the clients. -/
def Site.clientNames (s : Site) : List String :=
  (s.placedUplinks.flatMap fun (i, u) => u.clients i).map Prod.snd

/-! ## Clients -/

theorem Site.mem_clientNames {s : Site} {name : String} : name ∈ s.clientNames ↔
    ∃ k u username password, s.uplinks[k]? = some u ∧ u.kind = .pppoe username password ∧
      name = s!"pppoe-out{k + 1}" := by
  rw [clientNames, List.mem_map]
  constructor
  · rintro ⟨e, he, rfl⟩
    obtain ⟨⟨i, u⟩, hu, he⟩ := List.mem_flatMap.mp he
    obtain ⟨k, hk, rfl⟩ := mem_placedUplinks.mp hu
    obtain ⟨username, password, hkind⟩ := Uplink.isPppoe_of_mem_clients he
    rw [Uplink.eq_of_mem_clients he]
    exact ⟨k, u, username, password, hk, hkind, rfl⟩
  · rintro ⟨k, u, username, password, hk, hkind, rfl⟩
    exact ⟨_, List.mem_flatMap.mpr ⟨(k + 1, u), mem_placedUplinks.mpr ⟨k, hk, rfl⟩,
      Uplink.mem_clients (k + 1) hkind⟩, rfl⟩

theorem Site.nodup_clientNames (s : Site) : s.clientNames.Nodup := by
  rw [clientNames, List.Nodup, List.pairwise_map]
  refine s.nodup_clients.imp_of_mem fun he he' hne hname => hne ?_
  exact Prod.ext ((menu_of_mem_clients he).trans (menu_of_mem_clients he').symm) hname

/-! ## What is created -/

namespace Blueprint

variable {b : Blueprint}

/-- Of entries from menus that are all menus of interfaces, or none of them, all or none are. -/
theorem filter_interfaces {menus : List String} {es : List (String × String)}
    (h : ∀ e ∈ es, e.1 ∈ menus)
    (hmenus : menus.any interfaceMenus.contains = menus.all interfaceMenus.contains) :
    es.filter (fun e => interfaceMenus.contains e.1) =
      if menus.all interfaceMenus.contains then es else [] := by
  split
  next hall => exact List.filter_eq_self.mpr fun e he => List.all_eq_true.mp hall e.1 (h e he)
  next hnone =>
    rw [← hmenus] at hnone
    exact List.filter_eq_nil_iff.mpr fun e he hmem =>
      hnone (List.any_eq_true.mpr ⟨e.1, h e he, hmem⟩)

/-- The interfaces are the bridge, one for every network, and the clients. -/
theorem interfaceNames_script : b.script.interfaceNames =
    b.plan.vlans.bridge :: (b.site.networks.map (·.name) ++ b.site.clientNames) := by
  have hmenus : ∀ g ∈ b.groups,
      g.1.any interfaceMenus.contains = g.1.all interfaceMenus.contains := by
    simp only [groups, List.forall_mem_cons]
    decide
  have hgroups : ∀ g ∈ b.groups, g.2.filter (fun e => interfaceMenus.contains e.1) =
      if g.1.all interfaceMenus.contains then g.2 else [] :=
    fun g hg => filter_interfaces (b.menus_groups g hg) (hmenus g hg)
  have hentries : (created b.script.commands).filter (fun e => interfaceMenus.contains e.1) =
      ("/interface bridge", b.plan.vlans.bridge) ::
        ((b.site.networks.map fun n => ("/interface vlan", n.name)) ++
          b.site.placedUplinks.flatMap fun (i, u) => u.clients i) := by
    rw [created_script, List.filter_flatMap, List.flatMap_def, List.map_congr_left hgroups,
      ← List.flatMap_def]
    simp [groups, interfaceMenus]
  rw [Script.interfaceNames, hentries, List.map_cons, List.map_append, List.map_map]
  rfl

end Blueprint

/-! ## Compiled scripts -/

section Compiled

variable {s : Site} {profile : Profile} {strict : Bool} {options : CompileOptions} {out : Compiled}

/-- No client is named like a network. -/
theorem Site.IsValid.name_notMem_clientNames (hs : s.IsValid profile strict) {n : Network}
    (hn : n ∈ s.networks) : n.name ∉ s.clientNames := by
  intro hmem
  obtain ⟨k, u, username, password, hu, hkind, hname⟩ := mem_clientNames.mp hmem
  exact hs.names_not_client n hn k u username password hu hkind hname

/-- Names are apart when neither the bridge nor a port is called like something else. -/
theorem Site.namesApart_iff {bridge : String} : s.NamesApart bridge ↔
    bridge ∉ s.clientNames ∧ ∀ p ∈ s.ports, p.name ≠ bridge ∧ p.name ∉ s.clientNames := by
  simp only [mem_clientNames, not_exists, not_and]
  constructor
  · rintro ⟨hbridge, hclient, hports⟩
    exact ⟨hclient, fun p hp => ⟨hbridge p hp, hports p hp⟩⟩
  · rintro ⟨hclient, hports⟩
    exact ⟨fun p hp => (hports p hp).1, hclient, fun p hp => (hports p hp).2⟩

/-- The interfaces that a compiled script creates. -/
theorem interfaceNames_of_compile_eq_ok (h : compile s profile options = .ok out) :
    out.script.interfaceNames =
      profile.bridgeName :: (s.networks.map (·.name) ++ s.clientNames) := by
  obtain ⟨-, hplan, hscript, -⟩ := of_compile_eq_ok h
  obtain ⟨hvlans, -, -⟩ := Plan.of_build_eq_ok hplan
  rw [hscript, Blueprint.interfaceNames_script, (VlanTable.of_plan_eq_ok hvlans).1]

/-- Of the names that are created, only those of the bridge and of a client can be the same. -/
theorem Site.IsValid.nodup_interfaceNames_iff (hs : s.IsValid profile strict) :
    (profile.bridgeName :: (s.networks.map (·.name) ++ s.clientNames)).Nodup ↔
      profile.bridgeName ∉ s.clientNames := by
  have hbridge : profile.bridgeName ∉ s.networks.map (·.name) := by
    intro hmem
    obtain ⟨n, hn, hname⟩ := List.mem_map.mp hmem
    exact hs.names_not_bridge n hn hname
  have hothers : (s.networks.map (·.name) ++ s.clientNames).Nodup := by
    refine List.nodup_append.mpr ⟨hs.network_names_nodup, s.nodup_clientNames, ?_⟩
    rintro _ hnetwork name hclient rfl
    obtain ⟨n, hn, rfl⟩ := List.mem_map.mp hnetwork
    exact hs.name_notMem_clientNames hn hclient
  rw [List.nodup_cons, List.mem_append, and_iff_left hothers, not_or, and_iff_right hbridge]

/-- **The interfaces of a compiled script have names of their own exactly when the bridge, the ports
and the clients have.** The interface of a network always has one. -/
theorem compile_interfaceNames_distinct_iff (h : compile s profile options = .ok out) :
    (out.script.interfaceNames.Nodup ∧ (∀ p ∈ s.ports, p.name ∉ out.script.interfaceNames) ↔
      s.NamesApart profile.bridgeName) ∧
    ∀ n ∈ s.networks, out.script.interfaceNames.count n.name = 1 ∧
      ∀ p ∈ s.ports, p.name ≠ n.name := by
  obtain ⟨hs, -⟩ := of_compile_eq_ok h
  rw [interfaceNames_of_compile_eq_ok h]
  constructor
  · have hports : ∀ p ∈ s.ports, p.name ∉ s.networks.map (·.name) := by
      intro p hp hmem
      obtain ⟨n, hn, hname⟩ := List.mem_map.mp hmem
      exact hs.names_not_port n hn p hp hname.symm
    rw [hs.nodup_interfaceNames_iff, Site.namesApart_iff]
    refine and_congr_right fun _ => forall₂_congr fun p hp => ?_
    rw [List.mem_cons, List.mem_append, not_or, not_or, and_iff_right (hports p hp)]
  · intro n hn
    have hcount : (s.networks.map (·.name)).count n.name = 1 :=
      hs.network_names_nodup.count.trans (if_pos (List.mem_map.mpr ⟨n, hn, rfl⟩))
    refine ⟨?_, hs.names_not_port n hn⟩
    rw [List.count_cons_of_ne (hs.names_not_bridge n hn).symm, List.count_append, hcount,
      List.count_eq_zero_of_not_mem (hs.name_notMem_clientNames hn)]

end Compiled

/-- The sample has the interfaces `bridge`, `vlan10`, `vlan20` and `pppoe-out3`. -/
theorem compile_interfaceNames_distinct_of_sample : ∃ out,
    compile .sample .builtin .sample = .ok out ∧ out.script.interfaceNames.Nodup := by
  obtain ⟨out, h⟩ := exists_compile_sample
  have hapart : Site.sample.NamesApart Profile.builtin.bridgeName :=
    Site.namesApart_iff.mpr (by decide +kernel)
  exact ⟨out, h, ((compile_interfaceNames_distinct_iff h).1.mpr hapart).1⟩

/-- With a bridge that is named like one of its ports, the sample compiles all the same. -/
theorem compile_interfaceNames_clash :
    let profile : Profile := { Profile.builtin with bridgeName := "ether4" }
    ∃ out, compile .sample profile .sample = .ok out ∧
      ∃ p ∈ Site.sample.ports, p.name ∈ out.script.interfaceNames := by
  intro profile
  obtain ⟨out, h⟩ : ∃ out, compile .sample profile .sample = .ok out :=
    exists_compile_of_checks (by decide +kernel) (by decide +kernel)
  refine ⟨out, h, ⟨"ether4", .ether, .lan⟩, by decide, ?_⟩
  rw [interfaceNames_of_compile_eq_ok h]
  exact List.mem_cons_self ..

end SiteRouter
