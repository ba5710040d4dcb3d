import SiteRouter.Proofs.Entries

/-!
# Scripts are closed

No command of a script refers to anything that the device does not have by then. One lemma for each
section says what its commands need of the commands before them, and the order of the sections meets
every need: `Blueprint.closed_script`.
-/

namespace SiteRouter

open Script

variable {ports : List String} {before : List Command}

/-! ## Single commands -/

theorem Uplink.resolves_bringUp {u : Uplink} (hport : u.interface ∈ ports) (position : Nat) :
    (u.bringUp position).Resolves ports before := by
  unfold bringUp
  cases u.kind with
  | pppoe username password => simp [referent, Referent.IsFound, hport]
  | «static» address gateway => simp [referent, Referent.IsFound, hport]
  | dhcp => simp [referent, Referent.IsFound, hport]

/-- Traffic leaves through the port of the uplink or through the client that it brings up. -/
theorem Uplink.egress_found {u : Uplink} (hport : u.interface ∈ ports) {position : Nat}
    (hclients : u.clients position ⊆ created before) :
    Referent.interface.IsFound ports before (u.egress position) := by
  unfold egress
  cases hkind : u.kind with
  | pppoe username password =>
    exact Or.inr (Or.inr (hclients (mem_clients position hkind)))
  | «static» address gateway => exact Or.inl hport
  | dhcp => exact Or.inl hport

/-- A route needs its table, and the client that it leads to. -/
theorem Route.resolves_command {r : Route}
    (htable : ∀ t ∈ r.table, ("/routing table", t) ∈ created before)
    (hgateway : Referent.nextHop.IsFound ports before r.gateway.render) :
    r.command.Resolves ports before := by
  simp only [Referent.IsFound] at hgateway
  unfold command
  split <;> simpa [referent, Referent.IsFound, hgateway] using htable

theorem Mark.resolves_command {m : Mark} (localList : String)
    (hinterface : ("/interface vlan", m.interface) ∈ created before)
    (htable : ("/routing table", m.table) ∈ created before) :
    (m.command localList).Resolves ports before := by
  simp [command, prerouting, referent, Referent.IsFound, hinterface, htable]

/-! ## Groups of commands -/

namespace Network

variable {n : Network}

/-- The server of a network hands out addresses of the pool made before it. -/
theorem closed_dhcpCommands (leaseTime : String) (dns : List Ipv4)
    (hvlan : ("/interface vlan", n.name) ∈ created before) :
    Closed ports before (n.dhcpCommands leaseTime dns) := by
  simp only [dhcpCommands, closed_cons]
  refine ⟨?_, ?_, ?_, closed_nil⟩
  · simp [referent, Referent.IsFound]
  · simp only [Command.resolves_add, Command.resolves_arg, Command.resolves_flag, true_and]
    exact ⟨⟨⟨⟨trivial, Or.inr (Or.inl (mem_created_append hvlan))⟩,
      mem_created_concat (List.mem_singleton_self _)⟩, trivial⟩, trivial⟩
  · have hrouter : ∃ a : Ipv4, n.router.render = a.render := ⟨n.router, rfl⟩
    simp [referent, Referent.IsFound, hrouter]

/-- A hotspot has the profile made before it. -/
theorem closed_hotspotCommands (loginBy : List String)
    (hvlan : ("/interface vlan", n.name) ∈ created before)
    (hpool : ("/ip pool", n.poolName) ∈ created before) :
    Closed ports before (n.hotspotCommands loginBy) := by
  simp only [hotspotCommands, closed_cons]
  refine ⟨?_, ?_, closed_nil⟩
  · simp [referent, Referent.IsFound]
  · simp only [Command.resolves_add, Command.resolves_arg, Command.resolves_flag, true_and]
    exact ⟨⟨⟨⟨trivial, Or.inr (Or.inl (mem_created_append hvlan))⟩, mem_created_append hpool⟩,
      mem_created_concat (List.mem_singleton_self _)⟩, trivial⟩

/-- The services of a network need its VLAN interface, and the hotspot the pool of the server. -/
theorem closed_commands (profile : Profile) (resolver : Resolver)
    (hvlan : ("/interface vlan", n.name) ∈ created before) :
    Closed ports before (n.commands profile resolver) := by
  unfold commands
  rw [closed_cons]
  refine ⟨by simp [addressCommand, referent, Referent.IsFound, hvlan], ?_⟩
  have hvlan : ("/interface vlan", n.name) ∈ created (before ++ [n.addressCommand]) :=
    mem_created_append hvlan
  split
  next =>
    rw [closed_append]
    refine ⟨closed_dhcpCommands _ _ hvlan, ?_⟩
    split
    next =>
      refine closed_hotspotCommands _ (mem_created_append hvlan) ?_
      rw [created_append]
      exact List.mem_append_right _ (List.mem_cons_self ..)
    next => exact closed_nil
  next => exact closed_nil

end Network

/-- The routes of an uplink need the clients that routes lead to; the table is made for them. -/
theorem UplinkRoutes.closed_commands {uplinks : List Uplink} {probes : List Ipv4} {f : Failover}
    (hf : f.IsFor uplinks probes) {r : UplinkRoutes} (hr : r ∈ f.uplinks)
    (hgateways : ∀ other ∈ f.uplinks,
      Referent.nextHop.IsFound ports before other.gateway.render) :
    Closed ports before r.commands := by
  have hroutes := hf.routes_isFor r hr
  rw [commands, closed_cons]
  refine ⟨by simp [tableCommand, referent, Referent.IsFound], closed_of_forall fun c hc => ?_⟩
  obtain ⟨route, hroute, rfl⟩ := List.mem_map.mp hc
  have htable : ("/routing table", r.table) ∈ created (before ++ [r.tableCommand]) :=
    mem_created_concat (List.mem_singleton_self _)
  have hprobe : Referent.nextHop.IsFound ports (before ++ [r.tableCommand]) r.probe.render :=
    Or.inl ⟨r.probe, rfl⟩
  have hgateways : ∀ other ∈ f.uplinks, Referent.nextHop.IsFound ports
      (before ++ [r.tableCommand]) other.gateway.render :=
    fun other hother => (hgateways other hother).mono (List.subset_append_left ..)
  rw [routes] at hroute
  simp only [List.mem_cons, hroutes.hostRoute_eq, hroutes.tableDefault_eq,
    hroutes.mainDefault_eq, hf.backups_eq r hr, List.mem_map] at hroute
  rcases hroute with rfl | rfl | rfl | ⟨other, hother, rfl⟩
  · exact Route.resolves_command (by simp) (hgateways r hr)
  · exact Route.resolves_command (by simpa using htable) hprobe
  · exact Route.resolves_command (by simp) hprobe
  · exact Route.resolves_command (by simpa [backupThrough] using htable)
      (hgateways other (List.mem_filter.mp hother).1)

namespace Blueprint

variable {b : Blueprint}

/-! ## Sections -/

theorem closed_deviceSection : Closed ports before b.deviceSection.commands := by
  have hidentity : ∀ c ∈ b.identityCommands, c.Resolves ports before := by
    unfold identityCommands
    split <;> simp [referent, Referent.IsFound]
  have haccount : b.accountCommand.Resolves ports before := by
    simp [accountCommand, referent, Referent.IsFound]
  have hservice : ∀ c ∈ b.serviceCommands, c.Resolves ports before := by
    intro c hc
    rcases List.mem_append.mp hc with hc | hc
    · obtain ⟨name, -, rfl⟩ := List.mem_map.mp hc
      simp [referent, Referent.IsFound]
    · obtain rfl := List.mem_singleton.mp hc
      split <;> simp [referent, Referent.IsFound]
  rw [commands_deviceSection]
  refine closed_of_forall fun c hc => ?_
  rcases List.mem_append.mp hc with hc | hc
  · exact hidentity c hc
  · rcases List.mem_cons.mp hc with rfl | hc
    · exact haccount
    · exact hservice c hc

/-- Ports join the bridge before they are named as members of VLANs. -/
theorem closed_bridgeSection (h : b.IsSound) :
    Closed (b.site.ports.map (·.name)) before b.bridgeSection.commands := by
  have hbridge : ("/interface bridge", b.plan.vlans.bridge) ∈
      created (before ++ [b.bridgeCommand]) := mem_created_concat (List.mem_singleton_self _)
  rw [commands_bridgeSection, closed_cons, closed_append, closed_append]
  refine ⟨by simp [bridgeCommand, referent, Referent.IsFound], ?_, ?_, ?_⟩
  · refine closed_of_forall fun c hc => ?_
    obtain ⟨p, hp, rfl⟩ := List.mem_map.mp hc
    simp only [BridgePort.command, Command.resolves_add, Command.resolves_arg, true_and]
    exact ⟨⟨⟨hbridge, List.mem_map.mpr (h.joined_ports p hp)⟩, trivial⟩, trivial⟩
  · refine closed_of_forall fun c hc => ?_
    obtain ⟨n, -, rfl⟩ := List.mem_map.mp hc
    simp only [Network.vlanCommand, Command.resolves_add, Command.resolves_arg, true_and]
    exact ⟨⟨trivial, mem_created_append hbridge⟩, trivial⟩
  · refine closed_of_forall fun c hc => ?_
    obtain ⟨m, hm, rfl⟩ := List.mem_map.mp hc
    obtain ⟨members, htagged, hmembers⟩ := h.tagged_members m hm
    have hjoined : ∀ port ∈ members,
        Joins (b.plan.vlans.ports.map (·.command b.plan.vlans.bridge)) port := by
      intro port hport
      obtain ⟨p, hp, rfl⟩ := List.mem_map.mp (hmembers hport)
      exact ⟨_, List.mem_map.mpr ⟨p, hp, rfl⟩, rfl, rfl, by simp [BridgePort.command, Command.Says]⟩
    simp only [Membership.command, Command.resolves_add, Command.resolves_arg,
      Command.resolves_list, true_and]
    refine ⟨⟨mem_created_append (mem_created_append hbridge), trivial⟩,
      b.plan.vlans.bridge, members, by rw [htagged],
      mem_created_append (mem_created_append hbridge), fun port hport => ?_⟩
    exact (hjoined port hport).mono
      (List.subset_append_of_subset_left _ (List.subset_append_right ..))

/-- The uplinks come up one by one, each before it becomes a member of the list; by then every
client that a route leads to is there. -/
theorem closed_uplinkSection (h : b.IsSound) :
    Closed (b.site.ports.map (·.name)) before b.uplinkSection.commands := by
  have hports : ∀ i u, (i, u) ∈ b.site.placedUplinks →
      u.interface ∈ b.site.ports.map (·.name) := by
    intro i u hu
    obtain ⟨k, hk, -⟩ := Site.mem_placedUplinks.mp hu
    exact List.mem_map.mpr (h.uplink_ports u (List.mem_of_getElem? hk))
  have hlist : ("/interface list", b.profile.wanList) ∈ created (before ++
      [(Command.add "/interface list").arg "name" b.profile.wanList]) :=
    mem_created_concat (List.mem_singleton_self _)
  rw [commands_uplinkSection, closed_cons, closed_append]
  refine ⟨by simp [referent, Referent.IsFound], ?_, ?_⟩
  · refine closed_flatMap fun ⟨i, u⟩ hu later hlater => ?_
    have hport := hports i u hu
    rw [closed_cons, closed_cons]
    refine ⟨u.resolves_bringUp hport i, ?_, closed_nil⟩
    have hegress : Referent.interface.IsFound (b.site.ports.map (·.name))
        (later ++ [u.bringUp i]) (u.egress i) := by
      refine u.egress_found hport fun e he => ?_
      rw [← u.creations_bringUp] at he
      exact mem_created_concat he
    simp only [Uplink.memberCommand, Command.resolves_add, Command.resolves_arg, true_and]
    exact ⟨mem_created_append (created_mono hlater hlist), hegress⟩
  · refine closed_flatMap fun r hr later hlater => ?_
    refine UplinkRoutes.closed_commands h.failover_isFor hr fun other hother => ?_
    refine Referent.IsFound.mono hlater ?_
    obtain ⟨k, u, hk, hu, -, -, hgateway⟩ := (h.failover_isFor.routes_isFor other hother).placed
    generalize other.gateway = gateway at hgateway
    cases hgateway with
    | address address gateway hkind => exact Or.inl ⟨gateway, rfl⟩
    | client username password hkind =>
      have hplaced : (other.position, u) ∈ b.site.placedUplinks :=
        Site.mem_placedUplinks.mpr ⟨k, hu, hk⟩
      refine Or.inr ?_
      rw [created_append, created_flatMap]
      refine List.mem_append_right _ (List.mem_flatMap.mpr ⟨_, hplaced, ?_⟩)
      rw [created_cons, u.creations_bringUp]
      exact List.mem_append_left _ (u.mem_clients other.position hkind)

theorem closed_networkSection
    (hvlans : ∀ n ∈ b.site.networks, ("/interface vlan", n.name) ∈ created before) :
    Closed ports before b.networkSection.commands := by
  rw [commands_networkSection]
  exact closed_flatMap fun n hn later hlater =>
    Network.closed_commands _ _ (created_mono hlater (hvlans n hn))

theorem closed_resolverSection : Closed ports before b.resolverSection.commands := by
  rw [resolverSection, Section.commands_ofCommands]
  refine closed_of_forall fun c hc => ?_
  obtain rfl := List.mem_singleton.mp hc
  simp [referent, Referent.IsFound]

/-- Marks need the VLAN interfaces of networks and the tables of uplinks. -/
theorem closed_firewallSection (h : b.IsSound)
    (hvlans : ∀ n ∈ b.site.networks, ("/interface vlan", n.name) ∈ created before)
    (htables : ∀ r ∈ b.plan.failover.uplinks, ("/routing table", r.table) ∈ created before) :
    Closed ports before b.firewallSection.commands := by
  have hmarks : ∀ m ∈ b.plan.steering.marks,
      (m.command b.profile.localList).Resolves ports before := by
    intro m hm
    obtain ⟨n, hn, r, hr, hinterface, htable⟩ := h.marked m hm
    exact m.resolves_command _ (by rw [hinterface]; exact hvlans n hn)
      (by rw [htable]; exact htables r hr)
  refine closed_of_forall ?_
  rw [commands_firewallSection]
  simpa [or_imp, forall_and, addressListCommands, addressEntry, inputRules, inputRule, markRules,
    prerouting, Command.does, referent, Referent.IsFound] using hmarks

theorem closed_masqueradeSection
    (hlist : ("/interface list", b.profile.wanList) ∈ created before) :
    Closed ports before b.masqueradeSection.commands := by
  rw [masqueradeSection, Section.commands_ofCommands]
  refine closed_of_forall fun c hc => ?_
  rcases List.mem_cons.mp hc with rfl | hc
  · simp [sourceRule, Command.masquerades, referent, Referent.IsFound, hlist]
  · obtain ⟨n, -, rfl⟩ := List.mem_map.mp hc
    simp [sourceRule, Command.masquerades, referent, Referent.IsFound]

/-- The scheduler runs the script that has been stored before. -/
theorem closed_heartbeatSection : Closed ports before b.heartbeatSection.commands := by
  rw [heartbeatSection, Section.commands_ofCommands, closed_cons, closed_cons]
  refine ⟨by simp [referent, Referent.IsFound], ?_, closed_nil⟩
  simp only [Command.resolves_add, Command.resolves_arg, true_and]
  exact ⟨⟨⟨trivial, trivial⟩, trivial⟩, mem_created_concat (List.mem_singleton_self _)⟩

/-- Every reference of a script finds what an earlier command created. -/
theorem closed_script (h : b.IsSound) :
    Closed (b.site.ports.map (·.name)) [] b.script.commands := by
  have hvlans : ∀ n ∈ b.site.networks,
      ("/interface vlan", n.name) ∈ created b.bridgeSection.commands := by
    intro n hn
    rw [created_bridgeSection]
    exact List.mem_cons_of_mem _ (List.mem_map.mpr ⟨n, hn, rfl⟩)
  have htables : ∀ r ∈ b.plan.failover.uplinks,
      ("/routing table", r.table) ∈ created b.uplinkSection.commands := by
    intro r hr
    rw [created_uplinkSection]
    exact List.mem_cons_of_mem _ (List.mem_append_right _ (List.mem_map.mpr ⟨r, hr, rfl⟩))
  have hlist : ("/interface list", b.profile.wanList) ∈ created b.uplinkSection.commands := by
    rw [created_uplinkSection]
    exact List.mem_cons_self ..
  rw [commands_script]
  simp only [closed_append]
  refine ⟨closed_deviceSection, closed_bridgeSection h, closed_uplinkSection h,
    closed_networkSection fun n hn => ?_, closed_resolverSection,
    closed_firewallSection h (fun n hn => ?_) fun r hr => ?_,
    closed_masqueradeSection ?_, closed_heartbeatSection⟩
  · simp [created_append, hvlans n hn]
  · simp [created_append, hvlans n hn]
  · simp [created_append, htables r hr]
  · simp [created_append, hlist]

end Blueprint

/-- **A compiled script is closed**: at every command, whatever its arguments refer to is a port of
the site or has been created by a command before it. No entry is created twice, and the one bridge
is that of the profile. -/
theorem compile_closes_references {s : Site} {profile : Profile} {options : CompileOptions}
    {out : Compiled} (h : compile s profile options = .ok out) :
    (∀ before c after, out.script.commands = before ++ c :: after →
      c.Resolves (s.ports.map (·.name)) before) ∧
      (created out.script.commands).Nodup ∧
      ∀ name, ("/interface bridge", name) ∈ created out.script.commands ↔
        name = profile.bridgeName := by
  obtain ⟨hvalid, hplan, hscript, -⟩ := of_compile_eq_ok h
  have hsound : (Blueprint.mk s profile out.plan options.generatedAt).IsSound :=
    isSound_of_build_eq_ok hvalid hplan
  have hbridge := (VlanTable.of_plan_eq_ok (Plan.of_build_eq_ok hplan).1).1
  rw [hscript]
  refine ⟨?_, Blueprint.nodup_created hsound, fun name => ?_⟩
  · intro before c after hcommands
    exact Blueprint.closed_script hsound before c after hcommands
  · rw [Blueprint.bridge_created_iff, hbridge]

/-- The script of the sample, with uplinks of every kind, a hotspot and a trunk, is closed. -/
theorem compile_closes_references_of_sample : ∃ out, compile .sample .builtin .sample = .ok out ∧
    (∀ before c after, out.script.commands = before ++ c :: after →
      c.Resolves (Site.sample.ports.map (·.name)) before) ∧
    (created out.script.commands).Nodup := by
  obtain ⟨out, h⟩ := exists_compile_sample
  obtain ⟨hresolves, hnodup, -⟩ := compile_closes_references h
  exact ⟨out, h, hresolves, hnodup⟩

end SiteRouter
