import SiteRouter.Proofs.Numbering
import SiteRouter.Proofs.PoolWords

/-!
# The services of a network

What a network offers is set up in two sections of a script: its address, its pool, its DHCP server
and its hotspot in that of the networks, and the masquerading of a hotspot in one of its own. The
first sets a hotspot up only where there is DHCP, the second wherever there is a hotspot; they come
to the same because no valid site has a hotspot without DHCP.

`Script.Serves` says what a script sets up for one network, by selecting in each menu the commands
that tell the network: by its interface, by its subnet, or by the names of its pool and its hotspot
profile. `compile_serves_networks` says that a compiled script serves every network of its site and
sets up no service beside these.
-/

namespace SiteRouter

open Script

/-! ## What a script sets up -/

/-- Reads addresses with commas between them. -/
def Ipv4.listOfString? (s : String) : Option (List Ipv4) :=
  (Text.fieldsAt ',' s.toList).mapM (ofChars? paddedOctet?)

/-- The servers that clients are to ask in a network where the router has that address: the router
where it answers clients or where clients cannot reach its own servers over IPv4, and these servers
otherwise. -/
inductive Resolver.Tells (r : Resolver) (router : Ipv4) : List Ipv4 → Prop where
  | router (own : r.answersClients = true ∨ ∀ a ∈ r.servers, a.v4? = none) :
      r.Tells router [router]
  | servers (told : List Ipv4) (others : r.answersClients = false) (some : told ≠ [])
      (order : told.map .v4 = r.servers.filter (·.v4?.isSome)) : r.Tells router told

/-- The pools that have one of the names for a pool of the network. -/
def Script.poolsOf (sc : Script) (n : Network) : List Command :=
  (sc.commandsAt "/ip pool").filter fun c =>
    c.has "name" n.plainPoolName || c.has "name" n.hotspotPoolName

/-- The network has a DHCP server, which draws on the pool of the network, as does its hotspot if it
has one. Clients are told how to leave the network and whom to ask for names. -/
structure Script.Leases (sc : Script) (r : Resolver) (n : Network) : Prop where
  pool : ∃ c name, sc.poolsOf n = [c] ∧ sc.select "/ip pool" [("name", name)] = [c] ∧
    c.adds = true ∧ (c.get? "ranges").bind AddressRange.listOfString? = some n.poolRanges ∧
    sc.AddsOnce "/ip dhcp-server" [("interface", n.name)] [("address-pool", name)] ∧
    (n.hotspot = true → sc.AddsOnce "/ip hotspot" [("interface", n.name)] [("address-pool", name)])
  told : ∃ c dns, sc.select "/ip dhcp-server network" [("address", n.subnet.render)] = [c] ∧
    c.adds = true ∧ c.get? "gateway" = some n.router.render ∧
    (c.get? "dns-server").bind Ipv4.listOfString? = some dns ∧ dns ≠ [] ∧ r.Tells n.router dns

/-- The network has a hotspot at the address of the router, and its traffic is masqueraded. -/
structure Script.Greets (sc : Script) (n : Network) : Prop where
  profile : sc.AddsOnce "/ip hotspot profile" [("name", n.hotspotProfile)]
    [("hotspot-address", n.router.render)]
  server : sc.AddsOnce "/ip hotspot" [("interface", n.name)] [("profile", n.hotspotProfile)]
  masquerade : sc.AddsOnce "/ip firewall nat" [("src-address", n.subnet.render)]
    [("chain", "srcnat"), ("action", "masquerade")]

/-- The router has one address in the network, and the network has the services that it should
have. -/
structure Script.Serves (sc : Script) (r : Resolver) (n : Network) : Prop where
  address : sc.AddsOnce "/ip address" [("interface", n.name)] [("address", n.cidr.render)]
  leases : n.dhcp = true → sc.Leases r n
  no_pool : n.dhcp = false → sc.poolsOf n = []
  no_server : n.dhcp = false → sc.select "/ip dhcp-server" [("interface", n.name)] = []
  no_told : n.dhcp = false →
    sc.select "/ip dhcp-server network" [("address", n.subnet.render)] = []
  greets : n.hotspot = true → sc.Greets n
  no_profile : n.hotspot = false →
    sc.select "/ip hotspot profile" [("name", n.hotspotProfile)] = []
  no_hotspot : n.hotspot = false → sc.select "/ip hotspot" [("interface", n.name)] = []
  no_masquerade : n.hotspot = false →
    sc.select "/ip firewall nat" [("src-address", n.subnet.render)] = []

/-- The services in a script are those of networks. -/
structure Script.ServesOnly (sc : Script) (networks : List Network) : Prop where
  pools : sc.commandsAt "/ip pool" = networks.flatMap sc.poolsOf
  servers : sc.commandsAt "/ip dhcp-server" =
    networks.flatMap fun n => sc.select "/ip dhcp-server" [("interface", n.name)]
  told : sc.commandsAt "/ip dhcp-server network" =
    networks.flatMap fun n => sc.select "/ip dhcp-server network" [("address", n.subnet.render)]
  profiles : sc.commandsAt "/ip hotspot profile" =
    networks.flatMap fun n => sc.select "/ip hotspot profile" [("name", n.hotspotProfile)]
  hotspots : sc.commandsAt "/ip hotspot" =
    networks.flatMap fun n => sc.select "/ip hotspot" [("interface", n.name)]
  /-- One rule masquerades what leaves through uplinks, whatever its source. -/
  masquerades : ∃ c, c.get? "src-address" = none ∧ sc.commandsAt "/ip firewall nat" =
    c :: networks.flatMap fun n => sc.select "/ip firewall nat" [("src-address", n.subnet.render)]

/-! ## Names to ask -/

theorem Ipv4.listOfString?_render {as : List Ipv4} (h : as ≠ []) :
    listOfString? (",".intercalate (as.map render)) = some as :=
  Text.mapM_fieldsAt_intercalate (not_mem_render (by decide) (by decide)) ofChars?_render h

theorem IpAddress.map_v4_filterMap (as : List IpAddress) :
    (as.filterMap v4?).map .v4 = as.filter (·.v4?.isSome) := by
  induction as with
  | nil => rfl
  | cons a as ih =>
    cases a with
    | v4 a => exact congrArg (IpAddress.v4 a :: ·) ih
    | v6 a => exact ih

namespace Resolver

variable {r : Resolver} {router : Ipv4} {told : List Ipv4}

theorem tells_handedOut (r : Resolver) (router : Ipv4) : r.Tells router (r.handedOut router) := by
  unfold handedOut
  split
  next h =>
    rw [Bool.or_eq_true, List.isEmpty_iff, ipv4Servers, List.filterMap_eq_nil_iff] at h
    exact .router h
  next h =>
    rw [Bool.or_eq_true, not_or, List.isEmpty_iff, Bool.not_eq_true] at h
    exact .servers r.ipv4Servers h.1 h.2 (IpAddress.map_v4_filterMap r.servers)

/-- Clients always have someone to ask. -/
theorem Tells.ne_nil (h : r.Tells router told) : told ≠ [] := by
  cases h with
  | router own => exact List.cons_ne_nil _ _
  | servers _ others some order => exact some

end Resolver

/-! ## Commands for a network -/

namespace Network

variable {m n : Network}

/-- Tells the clients of the network how to leave it and whom to ask for names. -/
def toldCommand (resolver : Resolver) (n : Network) : Command :=
  (((Command.add "/ip dhcp-server network").arg "address" n.subnet.render).arg "gateway"
    n.router.render).list "dns-server" ((resolver.handedOut n.router).map Ipv4.render)

/-- Creates the hotspot profile of the network. -/
def profileCommand (loginBy : List String) (n : Network) : Command :=
  (((Command.add "/ip hotspot profile").arg "name" n.hotspotProfile).arg "hotspot-address"
    n.router.render).list "login-by" loginBy

/-- Creates the hotspot of the network. -/
def hotspotCommand (n : Network) : Command :=
  (((((Command.add "/ip hotspot").arg "name" s!"hotspot-{n.name}").arg "interface" n.name).arg
    "address-pool" n.poolName).arg "profile" n.hotspotProfile).flag "disabled" false

/-- Masquerades what comes from the network. -/
def masqueradeCommand (n : Network) : Command :=
  (sourceRule.arg "src-address" n.subnet.render).masquerades s!"hotspot {n.id}"

theorem filter_told_commands (n : Network) (profile : Profile) (resolver : Resolver) :
    (n.commands profile resolver).filter (·.path == "/ip dhcp-server network") =
      if n.dhcp then [n.toldCommand resolver] else [] := by
  unfold commands
  cases n.dhcp <;> cases n.hotspot <;>
    simp [addressCommand, dhcpCommands, hotspotCommands, toldCommand]

theorem filter_profile_commands (n : Network) (profile : Profile) (resolver : Resolver) :
    (n.commands profile resolver).filter (·.path == "/ip hotspot profile") =
      if n.dhcp && n.hotspot then [n.profileCommand profile.hotspotLoginBy] else [] := by
  unfold commands
  cases n.dhcp <;> cases n.hotspot <;>
    simp [addressCommand, dhcpCommands, hotspotCommands, profileCommand]

theorem filter_hotspot_commands (n : Network) (profile : Profile) (resolver : Resolver) :
    (n.commands profile resolver).filter (·.path == "/ip hotspot") =
      if n.dhcp && n.hotspot then [n.hotspotCommand] else [] := by
  unfold commands
  cases n.dhcp <;> cases n.hotspot <;>
    simp [addressCommand, dhcpCommands, hotspotCommands, hotspotCommand]

/-- Whichever of its names the pool of a network has, the name tells the network. -/
theorem name_eq_of_poolName (h : m.poolName = n.plainPoolName ∨ m.poolName = n.hotspotPoolName) :
    m.name = n.name := by
  unfold poolName at h
  split at h
  · rcases h with h | h
    · exact absurd h hotspotPoolName_ne_plainPoolName
    · exact (String.append_right_inj "hs-pool-").mp h
  · rcases h with h | h
    · exact (String.append_right_inj "pool-").mp h
    · exact absurd h.symm hotspotPoolName_ne_plainPoolName

end Network

/-- The text of a subnet tells its network. -/
theorem Site.IsValid.eq_of_render_subnet {s : Site} {profile : Profile} {strict : Bool}
    {m n : Network} (hs : s.IsValid profile strict) (hm : m ∈ s.networks) (hn : n ∈ s.networks)
    (h : m.subnet.render = n.subnet.render) : m = n := by
  have hread := congrArg Cidr.ofString? h
  rw [Cidr.ofString?_render, Cidr.ofString?_render, Option.some.injEq] at hread
  have hrouter : n.router ∈ n.subnet := Cidr.mem_subnet.mpr n.cidr.address_mem
  rw [← hread] at hrouter
  exact hs.eq_of_mem_cidr hm hn (Cidr.mem_subnet.mp hrouter) n.cidr.address_mem

namespace Blueprint

variable {b : Blueprint} {n : Network} {strict : Bool}

theorem commandsAt_told : b.script.commandsAt "/ip dhcp-server network" =
    (b.site.networks.filter (·.dhcp)).map (Network.toldCommand b.site.resolver) :=
  commandsAt_service (by simp) fun n => n.filter_told_commands b.profile b.site.resolver

/-- The rule for uplinks stands before those for networks. -/
theorem commandsAt_nat : b.script.commandsAt "/ip firewall nat" =
    (sourceRule.arg "out-interface-list" b.profile.wanList).masquerades "masquerade wan" ::
      (b.site.networks.filter (·.hotspot)).map Network.masqueradeCommand := by
  have hall : b.masqueradeSection.commands.filter (·.path == "/ip firewall nat") =
      b.masqueradeSection.commands := by
    refine List.filter_eq_self.mpr fun c hc => ?_
    exact beq_iff_eq.mpr (List.mem_singleton.mp (path_masqueradeSection hc))
  have hsection : b.script.commandsAt "/ip firewall nat" = b.masqueradeSection.commands := by
    simp [commandsAt_script, sections, sectionMenus, hall]
  rw [hsection, masqueradeSection, Section.commands_ofCommands]
  rfl

section Valid

variable (hs : b.site.IsValid b.profile strict)

include hs

/-- There is no hotspot without DHCP. -/
theorem filter_hotspot :
    b.site.networks.filter (fun n => n.dhcp && n.hotspot) = b.site.networks.filter (·.hotspot) := by
  refine List.filter_congr fun n hn => ?_
  cases hhotspot : n.hotspot with
  | true => rw [hs.hotspot_dhcp n hn hhotspot, Bool.and_self]
  | false => exact Bool.and_false _

theorem commandsAt_profile : b.script.commandsAt "/ip hotspot profile" =
    (b.site.networks.filter (·.hotspot)).map
      (Network.profileCommand b.profile.hotspotLoginBy) := by
  rw [← filter_hotspot hs]
  exact commandsAt_service (by simp) fun n => n.filter_profile_commands b.profile b.site.resolver

theorem commandsAt_hotspot : b.script.commandsAt "/ip hotspot" =
    (b.site.networks.filter (·.hotspot)).map Network.hotspotCommand := by
  rw [← filter_hotspot hs]
  exact commandsAt_service (by simp) fun n => n.filter_hotspot_commands b.profile b.site.resolver

/-! ## Selections -/

variable (hn : n ∈ b.site.networks)

include hn

theorem select_address :
    b.script.select "/ip address" [("interface", n.name)] = [n.addressCommand] := by
  rw [select, commandsAt_address, List.filter_append, List.filter_eq_nil_iff.mpr, List.nil_append]
  · refine filter_map_of_nodup hs.network_names_nodup hn ?_ fun m _ hm => ?_
    · simp [Network.addressCommand, Command.get?]
    · simpa [Network.addressCommand, Command.get?] using hm
  -- Uplinks have their addresses on ports, which are not called like networks.
  · intro c hc hsaid
    obtain ⟨⟨i, u⟩, hu, rfl⟩ := List.mem_map.mp (List.mem_filter.mp hc).1
    have hname : u.interface = n.name := by simpa [Uplink.get?_interface_bringUp] using hsaid
    obtain ⟨k, hk, -⟩ := Site.mem_placedUplinks.mp hu
    obtain ⟨p, hp, hport⟩ := hs.uplink_ports u (List.mem_of_getElem? hk)
    exact hs.names_not_port n hn p hp (hport.trans hname)

theorem poolsOf_eq : b.script.poolsOf n = if n.dhcp then [n.poolCommand] else [] := by
  rw [poolsOf, commandsAt_pool]
  refine filter_map_filter_of_nodup hs.network_names_nodup hn ?_ fun m _ hm => ?_
  · unfold Network.poolCommand Network.poolName
    split <;> simp [Command.has, Command.get?]
  · refine Network.name_eq_of_poolName ?_
    simpa [Network.poolCommand, Command.has, Command.get?] using hm

theorem select_pool (hdhcp : n.dhcp = true) :
    b.script.select "/ip pool" [("name", n.poolName)] = [n.poolCommand] := by
  rw [select, commandsAt_pool, filter_map_filter_of_nodup hs.network_names_nodup hn, if_pos hdhcp]
  · simp [Network.poolCommand, Command.get?]
  · intro m _ hm
    refine Network.poolName_injective ?_
    simpa [Network.poolCommand, Command.get?] using hm

theorem select_server : b.script.select "/ip dhcp-server" [("interface", n.name)] =
    if n.dhcp then [n.serverCommand b.profile.leaseTime] else [] := by
  rw [select, commandsAt_server]
  refine filter_map_filter_of_nodup hs.network_names_nodup hn ?_ fun m _ hm => ?_
  · simp [Network.serverCommand, Command.get?]
  · simpa [Network.serverCommand, Command.get?] using hm

theorem select_told : b.script.select "/ip dhcp-server network" [("address", n.subnet.render)] =
    if n.dhcp then [n.toldCommand b.site.resolver] else [] := by
  rw [select, commandsAt_told]
  refine filter_map_filter_of_nodup hs.network_names_nodup hn ?_ fun m hm hsaid => ?_
  · simp [Network.toldCommand, Command.get?]
  · have hsubnet : m.subnet.render = n.subnet.render := by
      simpa [Network.toldCommand, Command.get?] using hsaid
    rw [hs.eq_of_render_subnet hm hn hsubnet]

theorem select_profile : b.script.select "/ip hotspot profile" [("name", n.hotspotProfile)] =
    if n.hotspot then [n.profileCommand b.profile.hotspotLoginBy] else [] := by
  rw [select, commandsAt_profile hs]
  refine filter_map_filter_of_nodup hs.network_names_nodup hn ?_ fun m _ hm => ?_
  · simp [Network.profileCommand, Command.get?]
  · have hname : m.hotspotProfile = n.hotspotProfile := by
      simpa [Network.profileCommand, Command.get?] using hm
    exact (String.append_right_inj "hsprof-").mp hname

theorem select_hotspot : b.script.select "/ip hotspot" [("interface", n.name)] =
    if n.hotspot then [n.hotspotCommand] else [] := by
  rw [select, commandsAt_hotspot hs]
  refine filter_map_filter_of_nodup hs.network_names_nodup hn ?_ fun m _ hm => ?_
  · simp [Network.hotspotCommand, Command.get?]
  · simpa [Network.hotspotCommand, Command.get?] using hm

theorem select_masquerade : b.script.select "/ip firewall nat" [("src-address", n.subnet.render)] =
    if n.hotspot then [n.masqueradeCommand] else [] := by
  rw [select, commandsAt_nat, List.filter_cons_of_neg (by simp [Command.get?, sourceRule])]
  refine filter_map_filter_of_nodup hs.network_names_nodup hn ?_ fun m hm hsaid => ?_
  · simp [Network.masqueradeCommand, sourceRule, Command.get?]
  · have hsubnet : m.subnet.render = n.subnet.render := by
      simpa [Network.masqueradeCommand, sourceRule, Command.get?] using hsaid
    rw [hs.eq_of_render_subnet hm hn hsubnet]

/-! ## Services -/

theorem leases (hdhcp : n.dhcp = true) : b.script.Leases b.site.resolver n where
  pool := by
    have hlength := hs.dhcp_length n hn hdhcp
    have hranges : n.poolRanges ≠ [] :=
      fun h => Nat.not_lt.mpr hlength (Network.poolRanges_eq_nil_iff.mp h)
    have hvalue : n.poolCommand.get? "ranges" =
        some (",".intercalate (n.poolRanges.map AddressRange.render)) := by
      simp [Network.poolCommand, Command.get?]
    refine ⟨n.poolCommand, n.poolName, ?_, select_pool hs hn hdhcp, ?_, ?_, ?_,
      fun hhotspot => ?_⟩
    · rw [poolsOf_eq hs hn, if_pos hdhcp]
    · simp [Network.poolCommand]
    · rw [hvalue, Option.bind_some, AddressRange.listOfString?_render hranges]
    · refine ⟨n.serverCommand b.profile.leaseTime, ?_, ?_, ?_⟩
      · rw [select_server hs hn, if_pos hdhcp]
      · simp [Network.serverCommand]
      · simp [Network.serverCommand, Command.get?]
    · refine ⟨n.hotspotCommand, ?_, ?_, ?_⟩
      · rw [select_hotspot hs hn, if_pos hhotspot]
      · simp [Network.hotspotCommand]
      · simp [Network.hotspotCommand, Command.get?]
  told := by
    have htells := b.site.resolver.tells_handedOut n.router
    have hvalue : (n.toldCommand b.site.resolver).get? "dns-server" =
        some (",".intercalate ((b.site.resolver.handedOut n.router).map Ipv4.render)) := by
      simp [Network.toldCommand, Command.get?]
    refine ⟨n.toldCommand b.site.resolver, b.site.resolver.handedOut n.router, ?_, ?_, ?_, ?_,
      htells.ne_nil, htells⟩
    · rw [select_told hs hn, if_pos hdhcp]
    · simp [Network.toldCommand]
    · simp [Network.toldCommand, Command.get?]
    · rw [hvalue, Option.bind_some, Ipv4.listOfString?_render htells.ne_nil]

theorem greets (hhotspot : n.hotspot = true) : b.script.Greets n where
  profile := by
    refine ⟨n.profileCommand b.profile.hotspotLoginBy, ?_, ?_, ?_⟩
    · rw [select_profile hs hn, if_pos hhotspot]
    · simp [Network.profileCommand]
    · simp [Network.profileCommand, Command.get?]
  server := by
    refine ⟨n.hotspotCommand, ?_, ?_, ?_⟩
    · rw [select_hotspot hs hn, if_pos hhotspot]
    · simp [Network.hotspotCommand]
    · simp [Network.hotspotCommand, Command.get?]
  masquerade := by
    refine ⟨n.masqueradeCommand, ?_, ?_, ?_⟩
    · rw [select_masquerade hs hn, if_pos hhotspot]
    · simp [Network.masqueradeCommand, sourceRule]
    · simp [Network.masqueradeCommand, sourceRule, Command.get?]

theorem serves : b.script.Serves b.site.resolver n where
  address := by
    refine ⟨n.addressCommand, select_address hs hn, ?_, ?_⟩
    · simp [Network.addressCommand]
    · simp [Network.addressCommand, Command.get?]
  leases := leases hs hn
  no_pool hdhcp := by rw [poolsOf_eq hs hn, hdhcp]; rfl
  no_server hdhcp := by rw [select_server hs hn, hdhcp]; rfl
  no_told hdhcp := by rw [select_told hs hn, hdhcp]; rfl
  greets := greets hs hn
  no_profile hhotspot := by rw [select_profile hs hn, hhotspot]; rfl
  no_hotspot hhotspot := by rw [select_hotspot hs hn, hhotspot]; rfl
  no_masquerade hhotspot := by rw [select_masquerade hs hn, hhotspot]; rfl

omit hn in
theorem servesOnly : b.script.ServesOnly b.site.networks where
  pools := by
    rw [commandsAt_pool, ← flatMap_ite]
    exact List.flatMap_congr fun n hn => (poolsOf_eq hs hn).symm
  servers := by
    rw [commandsAt_server, ← flatMap_ite]
    exact List.flatMap_congr fun n hn => (select_server hs hn).symm
  told := by
    rw [commandsAt_told, ← flatMap_ite]
    exact List.flatMap_congr fun n hn => (select_told hs hn).symm
  profiles := by
    rw [commandsAt_profile hs, ← flatMap_ite]
    exact List.flatMap_congr fun n hn => (select_profile hs hn).symm
  hotspots := by
    rw [commandsAt_hotspot hs, ← flatMap_ite]
    exact List.flatMap_congr fun n hn => (select_hotspot hs hn).symm
  masquerades := by
    refine ⟨(sourceRule.arg "out-interface-list" b.profile.wanList).masquerades "masquerade wan",
      ?_, ?_⟩
    · simp [sourceRule, Command.get?]
    · rw [commandsAt_nat, ← flatMap_ite]
      exact congrArg (_ :: ·) (List.flatMap_congr fun n hn => (select_masquerade hs hn).symm)

end Valid

end Blueprint

/-- **A compiled script serves every network of its site.** The router has one address on the
interface of the network; the network has one pool, one DHCP server and one entry of what clients
are told if it has DHCP, and one hotspot with its profile and its masquerading if it has a hotspot,
and none of these otherwise. DHCP server and hotspot draw on the pool with the ranges of the
network. The script has no services beside these. -/
theorem compile_serves_networks {s : Site} {profile : Profile} {options : CompileOptions}
    {out : Compiled} (h : compile s profile options = .ok out) :
    (∀ n ∈ s.networks, out.script.Serves s.resolver n) ∧ out.script.ServesOnly s.networks := by
  obtain ⟨hs, -, hscript, -⟩ := of_compile_eq_ok h
  let b : Blueprint := .mk s profile out.plan options.generatedAt
  rw [hscript]
  exact ⟨fun n hn => b.serves hs hn, b.servesOnly hs⟩

/-- The guests of the sample share one pool between DHCP server and hotspot and ask the router for
names, and the office has an address and no pool. -/
theorem compile_serves_networks_of_sample :
    ∃ out, compile .sample .builtin .sample = .ok out ∧
      out.script.Greets Site.sample.networks[0] ∧
      out.script.Leases Site.sample.resolver Site.sample.networks[0] ∧
      out.script.AddsOnce "/ip address" [("interface", "vlan20")]
        [("address", "192.168.20.1/24")] ∧
      out.script.poolsOf Site.sample.networks[1] = [] := by
  obtain ⟨out, h⟩ := exists_compile_sample
  obtain ⟨hserves, -⟩ := compile_serves_networks h
  have hguests := hserves Site.sample.networks[0] (List.getElem_mem _)
  have hoffice := hserves Site.sample.networks[1] (List.getElem_mem _)
  exact ⟨out, h, hguests.greets rfl, hguests.leases rfl, hoffice.address, hoffice.no_pool rfl⟩

end SiteRouter
