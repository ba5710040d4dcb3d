import SiteRouter.Proofs.Commands

/-!
# The commands of one menu

Every section of a configuration keeps to a few menus (`Section.KeepsTo`), so that what a script
says in one menu stands together in one section or two. This file finds it there: the account
(`Blueprint.commandsAt_user`), the addresses of the router (`Blueprint.commandsAt_address`), the
PPPoE clients (`Blueprint.commandsAt_client`), the VLANs of the bridge
(`Blueprint.commandsAt_bridgeVlan`), the members of the uplink list
(`Blueprint.commandsAt_member`), the tables and routes (`Blueprint.commandsAt_table`,
`Blueprint.commandsAt_route`), the address lists (`Blueprint.commandsAt_addressList`), and the rules
that protect the router and mark traffic (`Blueprint.commandsAt_filter`,
`Blueprint.commandsAt_mangle`).
-/

namespace SiteRouter

namespace Script

/-- Every command of the section belongs to one of the menus. -/
def Section.KeepsTo (sec : Section) (menus : List String) : Prop :=
  ∀ c ∈ sec.commands, c.path ∈ menus

variable {path : String}

theorem Section.KeepsTo.filter_eq_nil {sec : Section} {menus : List String}
    (h : sec.KeepsTo menus) (hpath : path ∉ menus) :
    sec.commands.filter (·.path == path) = [] := by
  refine List.filter_eq_nil_iff.mpr fun c hc heq => hpath ?_
  rw [← beq_iff_eq.mp heq]
  exact h c hc

/-- Of commands of one menu a menu gets all or none. -/
theorem filter_path {cs : List Command} {menu : String} (h : ∀ c ∈ cs, c.path = menu) :
    cs.filter (·.path == path) = if menu = path then cs else [] := by
  split
  next hpath =>
    refine List.filter_eq_self.mpr fun c hc => ?_
    rw [h c hc, hpath, beq_self_eq_true]
  next hpath =>
    refine List.filter_eq_nil_iff.mpr fun c hc heq => hpath ?_
    rw [← h c hc, beq_iff_eq.mp heq]

end Script

open Script

/-! ## Single commands -/

/-- The menu in which an uplink of the kind is brought up. -/
def UplinkKind.menu : UplinkKind → String
  | .static .. => "/ip address"
  | .pppoe .. => "/interface pppoe-client"
  | .dhcp => "/ip dhcp-client"

@[simp] theorem Uplink.path_bringUp (u : Uplink) (position : Nat) :
    (u.bringUp position).path = u.kind.menu := by
  unfold bringUp
  cases u.kind <;> simp [UplinkKind.menu]

@[simp] theorem Route.path_command (r : Route) : r.command.path = "/ip route" := by
  unfold command
  cases r.checkGateway <;> simp

theorem UplinkRoutes.path_commands {r : UplinkRoutes} {c : Command} (hc : c ∈ r.commands) :
    c.path = "/routing table" ∨ c.path = "/ip route" := by
  rcases List.mem_cons.mp hc with rfl | hc
  · exact Or.inl rfl
  · obtain ⟨route, -, rfl⟩ := List.mem_map.mp hc
    exact Or.inr route.path_command

/-- Only the address of the router is set in the menu of addresses. -/
theorem Network.filter_address_commands (n : Network) (profile : Profile) (resolver : Resolver) :
    (n.commands profile resolver).filter (·.path == "/ip address") = [n.addressCommand] := by
  have haddress : n.addressCommand.path = "/ip address" := rfl
  unfold commands
  cases n.dhcp <;> cases n.hotspot <;> simp [haddress, dhcpCommands, hotspotCommands]

theorem Network.path_commands {n : Network} {profile : Profile} {resolver : Resolver} {c : Command}
    (hc : c ∈ n.commands profile resolver) : c.path ∈ ["/ip address", "/ip pool",
      "/ip dhcp-server", "/ip dhcp-server network", "/ip hotspot profile", "/ip hotspot"] := by
  revert c
  unfold commands
  cases n.dhcp <;> cases n.hotspot <;> simp [addressCommand, dhcpCommands, hotspotCommands]

namespace Blueprint

variable {b : Blueprint} {path : String}

/-! ## Sections -/

/-- The menus of the sections, in order. -/
def sectionMenus : List (List String) := [
  ["/system identity", "/system clock", "/system ntp client", "/user", "/ip service"],
  ["/interface bridge", "/interface bridge port", "/interface vlan", "/interface bridge vlan"],
  ["/interface list", "/ip address", "/interface pppoe-client", "/ip dhcp-client",
    "/interface list member", "/routing table", "/ip route"],
  ["/ip address", "/ip pool", "/ip dhcp-server", "/ip dhcp-server network", "/ip hotspot profile",
    "/ip hotspot"],
  ["/ip dns"],
  ["/ip firewall address-list", "/ip firewall filter", "/ip firewall mangle"],
  ["/ip firewall nat"],
  ["/system script", "/system scheduler"]]

theorem path_serviceCommands {c : Command} (hc : c ∈ b.serviceCommands) :
    c.path = "/ip service" := by
  rcases List.mem_append.mp hc with hc | hc
  · obtain ⟨name, -, rfl⟩ := List.mem_map.mp hc
    rfl
  · obtain rfl := List.mem_singleton.mp hc
    split <;> rfl

theorem path_deviceSection {c : Command} (hc : c ∈ b.deviceSection.commands) : c.path ∈
    ["/system identity", "/system clock", "/system ntp client", "/user", "/ip service"] := by
  rw [commands_deviceSection, List.mem_append, List.mem_cons] at hc
  rcases hc with hc | rfl | hc
  · revert c
    unfold identityCommands
    split <;> simp
  · simp [accountCommand]
  · simp [path_serviceCommands hc]

theorem path_bridgeSection {c : Command} (hc : c ∈ b.bridgeSection.commands) : c.path ∈
    ["/interface bridge", "/interface bridge port", "/interface vlan",
      "/interface bridge vlan"] := by
  rw [commands_bridgeSection] at hc
  revert c
  simp [or_imp, forall_and, bridgeCommand, BridgePort.command, Network.vlanCommand,
    Membership.command]

theorem path_uplinkSection {c : Command} (hc : c ∈ b.uplinkSection.commands) : c.path ∈
    ["/interface list", "/ip address", "/interface pppoe-client", "/ip dhcp-client",
      "/interface list member", "/routing table", "/ip route"] := by
  rw [commands_uplinkSection, List.mem_cons, List.mem_append, List.mem_flatMap,
    List.mem_flatMap] at hc
  rcases hc with rfl | ⟨⟨i, u⟩, -, hc⟩ | ⟨r, -, hc⟩
  · simp
  · rcases List.mem_cons.mp hc with rfl | hc
    · rw [Uplink.path_bringUp]
      cases u.kind <;> simp [UplinkKind.menu]
    · rw [List.mem_singleton.mp hc]
      simp [Uplink.memberCommand]
  · rcases UplinkRoutes.path_commands hc with h | h <;> simp [h]

theorem path_addressListCommands {c : Command} (hc : c ∈ b.addressListCommands) :
    c.path = "/ip firewall address-list" := by
  rcases List.mem_append.mp hc with hc | hc
  · obtain ⟨net, -, rfl⟩ := List.mem_map.mp hc
    rfl
  · obtain ⟨n, -, rfl⟩ := List.mem_map.mp hc
    rfl

theorem path_inputRules {c : Command} (hc : c ∈ b.inputRules) :
    c.path = "/ip firewall filter" := by
  revert c
  simp [or_imp, forall_and, inputRules, inputRule]

theorem path_markRules {c : Command} (hc : c ∈ b.markRules) : c.path = "/ip firewall mangle" := by
  rcases List.mem_cons.mp hc with rfl | hc
  · rfl
  · obtain ⟨m, -, rfl⟩ := List.mem_map.mp hc
    rfl

theorem path_firewallSection {c : Command} (hc : c ∈ b.firewallSection.commands) : c.path ∈
    ["/ip firewall address-list", "/ip firewall filter", "/ip firewall mangle"] := by
  rw [commands_firewallSection, List.mem_append, List.mem_append] at hc
  rcases hc with hc | hc | hc
  · simp [path_addressListCommands hc]
  · simp [path_inputRules hc]
  · simp [path_markRules hc]

theorem path_masqueradeSection {c : Command} (hc : c ∈ b.masqueradeSection.commands) :
    c.path ∈ ["/ip firewall nat"] := by
  rw [masqueradeSection, Section.commands_ofCommands] at hc
  rcases List.mem_cons.mp hc with rfl | hc
  · simp [sourceRule]
  · obtain ⟨n, -, rfl⟩ := List.mem_map.mp hc
    simp [sourceRule]

theorem keepsTo_sections : ∀ x ∈ b.sections.zip sectionMenus, x.1.KeepsTo x.2 := by
  have hnetwork : ∀ c ∈ b.networkSection.commands, c.path ∈ ["/ip address", "/ip pool",
      "/ip dhcp-server", "/ip dhcp-server network", "/ip hotspot profile", "/ip hotspot"] := by
    intro c hc
    rw [commands_networkSection] at hc
    obtain ⟨n, -, hc⟩ := List.mem_flatMap.mp hc
    exact Network.path_commands hc
  have hresolver : ∀ c ∈ b.resolverSection.commands, c.path ∈ ["/ip dns"] := by
    simp [resolverSection]
  have hheartbeat : ∀ c ∈ b.heartbeatSection.commands,
      c.path ∈ ["/system script", "/system scheduler"] := by
    simp [heartbeatSection]
  simp only [sections, sectionMenus, List.zip_cons_cons, List.zip_nil_right, List.forall_mem_cons]
  exact ⟨fun c => path_deviceSection, fun c => path_bridgeSection, fun c => path_uplinkSection,
    hnetwork, hresolver, fun c => path_firewallSection, fun c => path_masqueradeSection,
    hheartbeat, by simp⟩

/-! ## Menus -/

/-- The commands of a menu are found in the sections that have the menu. -/
theorem commandsAt_script (path : String) : b.script.commandsAt path =
    (b.sections.zip sectionMenus).flatMap fun x =>
      if path ∈ x.2 then x.1.commands.filter (·.path == path) else [] := by
  have hsections : b.script.sections = (b.sections.zip sectionMenus).map Prod.fst := rfl
  rw [Script.commandsAt, Script.commands, hsections, List.flatMap_map, List.filter_flatMap,
    List.flatMap_def, List.flatMap_def]
  refine congrArg List.flatten (List.map_congr_left fun x hx => ?_)
  split
  next => rfl
  next hpath => exact (keepsTo_sections x hx).filter_eq_nil hpath

/-- The commands for uplinks that are routed create tables and routes. -/
theorem filter_routed_eq_nil (htable : path ≠ "/routing table") (hroute : path ≠ "/ip route") :
    (b.plan.failover.uplinks.flatMap UplinkRoutes.commands).filter (·.path == path) = [] := by
  refine List.filter_eq_nil_iff.mpr fun c hc heq => ?_
  obtain ⟨r, -, hc⟩ := List.mem_flatMap.mp hc
  rw [beq_iff_eq] at heq
  rcases UplinkRoutes.path_commands hc with h | h
  · exact htable (heq.symm.trans h)
  · exact hroute (heq.symm.trans h)

/-- Lists, tables and routes aside, the section of the uplinks only brings them up. -/
theorem filter_uplinkSection
    (hpath : path ∉ ["/interface list", "/interface list member", "/routing table", "/ip route"]) :
    b.uplinkSection.commands.filter (·.path == path) =
      (b.site.placedUplinks.map fun (i, u) => u.bringUp i).filter (·.path == path) := by
  simp only [List.mem_cons, List.not_mem_nil, or_false, not_or] at hpath
  obtain ⟨hlist, hmember, htable, hroute⟩ := hpath
  have hmembers : ∀ (u : Uplink) (i : Nat),
      [u.bringUp i, u.memberCommand b.profile.wanList i].filter (·.path == path) =
        [u.bringUp i].filter (·.path == path) := by
    intro u i
    have hpath : (u.memberCommand b.profile.wanList i).path = "/interface list member" := rfl
    rw [← List.singleton_append, List.filter_append]
    simp [hpath, Ne.symm hmember]
  rw [commands_uplinkSection, List.filter_cons_of_neg (by simp [Ne.symm hlist]),
    List.filter_append, filter_routed_eq_nil htable hroute, List.append_nil, List.filter_flatMap,
    List.map_eq_flatMap, List.filter_flatMap]
  exact congrArg (List.flatMap · _) (funext fun ⟨i, u⟩ => hmembers u i)

/-- There is one account. -/
theorem commandsAt_user : b.script.commandsAt "/user" = [b.accountCommand] := by
  have haccount : b.accountCommand.path = "/user" := by simp [accountCommand]
  have hidentity : b.identityCommands.filter (·.path == "/user") = [] := by
    unfold identityCommands
    split <;> simp
  have hservice : b.serviceCommands.filter (·.path == "/user") = [] := by
    refine List.filter_eq_nil_iff.mpr fun c hc => ?_
    simp [path_serviceCommands hc]
  have hsection : b.deviceSection.commands.filter (·.path == "/user") = [b.accountCommand] := by
    rw [commands_deviceSection, List.filter_append, hidentity, List.nil_append,
      List.filter_cons_of_pos (by simp [haccount]), hservice]
  simp [commandsAt_script, sections, sectionMenus, hsection]

/-- The router has the addresses of its static uplinks and one in every network. -/
theorem commandsAt_address : b.script.commandsAt "/ip address" =
    (b.site.placedUplinks.map fun (i, u) => u.bringUp i).filter (·.path == "/ip address") ++
      b.site.networks.map Network.addressCommand := by
  have hnetworks : b.networkSection.commands.filter (·.path == "/ip address") =
      b.site.networks.map Network.addressCommand := by
    rw [commands_networkSection, List.filter_flatMap, List.map_eq_flatMap]
    simp only [Network.filter_address_commands]
  simp [commandsAt_script, sections, sectionMenus, hnetworks, filter_uplinkSection]

theorem commandsAt_client : b.script.commandsAt "/interface pppoe-client" =
    (b.site.placedUplinks.map fun (i, u) => u.bringUp i).filter
      (·.path == "/interface pppoe-client") := by
  simp [commandsAt_script, sections, sectionMenus, filter_uplinkSection]

theorem commandsAt_dhcpClient : b.script.commandsAt "/ip dhcp-client" =
    (b.site.placedUplinks.map fun (i, u) => u.bringUp i).filter (·.path == "/ip dhcp-client") := by
  simp [commandsAt_script, sections, sectionMenus, filter_uplinkSection]

/-- The uplink list has one member for every uplink. -/
theorem commandsAt_member : b.script.commandsAt "/interface list member" =
    b.site.placedUplinks.map fun (i, u) => u.memberCommand b.profile.wanList i := by
  have hmembers : ∀ (u : Uplink) (i : Nat),
      [u.bringUp i, u.memberCommand b.profile.wanList i].filter
        (·.path == "/interface list member") = [u.memberCommand b.profile.wanList i] := by
    intro u i
    have hpath : (u.memberCommand b.profile.wanList i).path = "/interface list member" := rfl
    cases hkind : u.kind <;> simp [hpath, hkind, UplinkKind.menu]
  have hsection : b.uplinkSection.commands.filter (·.path == "/interface list member") =
      b.site.placedUplinks.map fun (i, u) => u.memberCommand b.profile.wanList i := by
    rw [commands_uplinkSection, List.filter_cons_of_neg (by simp), List.filter_append,
      filter_routed_eq_nil (by decide) (by decide), List.append_nil, List.filter_flatMap,
      List.map_eq_flatMap]
    exact congrArg (List.flatMap · _) (funext fun ⟨i, u⟩ => hmembers u i)
  simp [commandsAt_script, sections, sectionMenus, hsection]

/-- Tables and routes are those of the uplinks that are routed. -/
theorem filter_uplinkSection_routed (hpath : path ∈ ["/routing table", "/ip route"]) :
    b.uplinkSection.commands.filter (·.path == path) =
      b.plan.failover.uplinks.flatMap fun r => r.commands.filter (·.path == path) := by
  have hother : ∀ c ∈ b.site.placedUplinks.flatMap (fun (i, u) =>
      [u.bringUp i, u.memberCommand b.profile.wanList i]),
      c.path ∉ ["/routing table", "/ip route"] := by
    intro c hc
    obtain ⟨⟨i, u⟩, -, hc⟩ := List.mem_flatMap.mp hc
    simp only [List.mem_cons, List.not_mem_nil, or_false] at hc
    rcases hc with rfl | rfl
    · rw [Uplink.path_bringUp]
      cases u.kind <;> simp [UplinkKind.menu]
    · exact (by simp : "/interface list member" ∉ ["/routing table", "/ip route"])
  have hnone : (b.site.placedUplinks.flatMap (fun (i, u) =>
      [u.bringUp i, u.memberCommand b.profile.wanList i])).filter (·.path == path) = [] := by
    refine List.filter_eq_nil_iff.mpr fun c hc heq => hother c hc ?_
    rw [beq_iff_eq.mp heq]
    exact hpath
  have hlist : "/interface list" ≠ path := by
    rintro rfl
    exact absurd hpath (by simp)
  rw [commands_uplinkSection, List.filter_cons_of_neg (by simp [hlist]), List.filter_append, hnone,
    List.nil_append, List.filter_flatMap]

theorem commandsAt_table : b.script.commandsAt "/routing table" =
    b.plan.failover.uplinks.map UplinkRoutes.tableCommand := by
  have hcommands : ∀ r : UplinkRoutes,
      r.commands.filter (·.path == "/routing table") = [r.tableCommand] := by
    intro r
    have hroutes : ∀ c ∈ r.routes.map Route.command, c.path = "/ip route" :=
      List.forall_mem_map.mpr fun route _ => route.path_command
    rw [UplinkRoutes.commands, List.filter_cons_of_pos (by rfl), filter_path hroutes]
    rfl
  have hsection : b.uplinkSection.commands.filter (·.path == "/routing table") =
      b.plan.failover.uplinks.map UplinkRoutes.tableCommand := by
    rw [filter_uplinkSection_routed (by simp), List.map_eq_flatMap]
    simp only [hcommands]
  simp [commandsAt_script, sections, sectionMenus, hsection]

theorem commandsAt_route : b.script.commandsAt "/ip route" =
    b.plan.failover.routes.map Route.command := by
  have hcommands : ∀ r : UplinkRoutes,
      r.commands.filter (·.path == "/ip route") = r.routes.map Route.command := by
    intro r
    have hroutes : ∀ c ∈ r.routes.map Route.command, c.path = "/ip route" :=
      List.forall_mem_map.mpr fun route _ => route.path_command
    have htable : r.tableCommand.path = "/routing table" := rfl
    rw [UplinkRoutes.commands, List.filter_cons_of_neg (by simp [htable]), filter_path hroutes]
    rfl
  have hsection : b.uplinkSection.commands.filter (·.path == "/ip route") =
      b.plan.failover.routes.map Route.command := by
    rw [filter_uplinkSection_routed (by simp), Failover.routes, List.map_flatMap]
    simp only [hcommands]
  simp [commandsAt_script, sections, sectionMenus, hsection]

/-- Who carries a VLAN is said once for each entry of the table. -/
theorem commandsAt_bridgeVlan : b.script.commandsAt "/interface bridge vlan" =
    b.plan.vlans.vlans.map (·.command b.plan.vlans.bridge) := by
  have hbridge : b.bridgeCommand.path = "/interface bridge" := rfl
  have hports : ∀ c ∈ b.plan.vlans.ports.map (·.command b.plan.vlans.bridge),
      c.path = "/interface bridge port" :=
    List.forall_mem_map.mpr fun _ _ => rfl
  have hinterfaces : ∀ c ∈ b.site.networks.map (·.vlanCommand b.plan.vlans.bridge),
      c.path = "/interface vlan" :=
    List.forall_mem_map.mpr fun _ _ => rfl
  have hvlans : ∀ c ∈ b.plan.vlans.vlans.map (·.command b.plan.vlans.bridge),
      c.path = "/interface bridge vlan" :=
    List.forall_mem_map.mpr fun _ _ => rfl
  simp [commandsAt_script, sections, sectionMenus, commands_bridgeSection, hbridge,
    filter_path hports, filter_path hinterfaces, filter_path hvlans]

theorem commandsAt_addressList :
    b.script.commandsAt "/ip firewall address-list" = b.addressListCommands := by
  simp [commandsAt_script, sections, sectionMenus, commands_firewallSection,
    filter_path fun _ => path_addressListCommands, filter_path fun _ => path_inputRules,
    filter_path fun _ => path_markRules]

theorem commandsAt_filter : b.script.commandsAt "/ip firewall filter" = b.inputRules := by
  simp [commandsAt_script, sections, sectionMenus, commands_firewallSection,
    filter_path fun _ => path_addressListCommands, filter_path fun _ => path_inputRules,
    filter_path fun _ => path_markRules]

theorem commandsAt_mangle : b.script.commandsAt "/ip firewall mangle" = b.markRules := by
  simp [commandsAt_script, sections, sectionMenus, commands_firewallSection,
    filter_path fun _ => path_addressListCommands, filter_path fun _ => path_inputRules,
    filter_path fun _ => path_markRules]

end Blueprint

end SiteRouter
