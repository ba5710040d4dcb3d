import SiteRouter.Proofs.AddressText
import SiteRouter.Proofs.Compilation
import SiteRouter.Proofs.Entries
import SiteRouter.Proofs.Menus
import SiteRouter.Proofs.RoutedUplinks

/-!
# Address pools

A network with DHCP hands out addresses from a pool, which a script spells out as ranges. This file
reads those ranges as sets of addresses: `Script.Command.Offers` says that a command names a range
with an address in it, and `Network.mem_poolRanges_iff` that the ranges of a network hold the hosts
of its subnet except the router. Since the subnets of a valid site are disjoint, no pool of a
compiled script reaches into another network (`compile_separates_pools`).
-/

namespace SiteRouter

namespace AddressRange

theorem mem_iff {r : AddressRange} {a : Ipv4} :
    a ∈ r ↔ r.first.toNat ≤ a.toNat ∧ a.toNat ≤ r.last.toNat := Iff.rfl

/-- Taking an address out of a range leaves all others. -/
theorem mem_without_iff {r : AddressRange} {a x : Ipv4} :
    (∃ q ∈ r.without a, x ∈ q) ↔ x ∈ r ∧ x ≠ a := by
  have hne : x ≠ a ↔ x.toNat ≠ a.toNat :=
    not_congr ⟨fun h => congrArg Ipv4.toNat h, Ipv4.eq_of_toNat_eq⟩
  rw [hne, mem_iff]
  by_cases ha : a ∈ r
  · obtain ⟨hfirst, hlast⟩ := mem_iff.mp ha
    have hparts : ((r.first.toNat ≤ x.toNat ∧ x.toNat ≤ r.last.toNat) ∧ x.toNat ≠ a.toNat) ↔
        (r.first.toNat ≤ x.toNat ∧ x.toNat < a.toNat) ∨
          (a.toNat < x.toNat ∧ x.toNat ≤ r.last.toNat) := by omega
    rw [without, if_pos ha, hparts]
    simp only [List.mem_append, or_and_right, exists_or]
    -- What is left below the address, and what is left above it.
    refine or_congr ?_ ?_
    · split
      next h =>
        have h : r.first.toNat < a.toNat := h
        simp only [List.mem_singleton, exists_eq_left]
        show r.first.toNat ≤ x.toNat ∧ x.toNat ≤ a.toNat - 1 ↔ _
        omega
      next h =>
        have h : ¬r.first.toNat < a.toNat := h
        exact iff_of_false (by simp) (by omega)
    · split
      next h =>
        have h : a.toNat < r.last.toNat := h
        simp only [List.mem_singleton, exists_eq_left]
        show a.toNat + 1 ≤ x.toNat ∧ x.toNat ≤ r.last.toNat ↔ _
        omega
      next h =>
        have h : ¬a.toNat < r.last.toNat := h
        exact iff_of_false (by simp) (by omega)
  · rw [without, if_neg ha]
    rw [mem_iff] at ha
    simp only [List.mem_singleton, exists_eq_left, mem_iff]
    omega

end AddressRange

namespace Cidr

/-- The hosts of a subnet lie between its ends. -/
theorem mem_hosts_iff {c : Cidr} {a : Ipv4} :
    (∃ hosts, c.hosts? = some hosts ∧ a ∈ hosts) ↔ c.length ≤ 30 ∧ c.first < a ∧ a < c.last := by
  unfold hosts?
  by_cases hlength : c.length ≤ 30
  · have hsize := four_le_size hlength
    have hlast := c.last_toNat
    have hlt : ∀ a b : Ipv4, a < b ↔ a.toNat < b.toNat := fun _ _ => Iff.rfl
    simp only [dif_pos hlength, Option.some.injEq, exists_eq_left', AddressRange.mem_iff, hlt]
    omega
  · simp [hlength]

end Cidr

namespace Network

variable {n : Network} {a : Ipv4}

/-- **A network hands out the hosts of its subnet except the router.** -/
theorem mem_poolRanges_iff : (∃ r ∈ n.poolRanges, a ∈ r) ↔
    n.cidr.length ≤ 30 ∧ n.cidr.first < a ∧ a < n.cidr.last ∧ a ≠ n.router := by
  have hhosts : (∃ hosts, n.subnet.hosts? = some hosts ∧ a ∈ hosts) ↔
      n.cidr.length ≤ 30 ∧ n.cidr.first < a ∧ a < n.cidr.last := by
    rw [Cidr.mem_hosts_iff, subnet, Cidr.first_subnet, Cidr.last_subnet]
    rfl
  have hranges : (∃ r ∈ n.poolRanges, a ∈ r) ↔
      (∃ hosts, n.subnet.hosts? = some hosts ∧ a ∈ hosts) ∧ a ≠ n.router := by
    unfold poolRanges
    cases n.subnet.hosts? with
    | none => simp
    | some hosts => simp [AddressRange.mem_without_iff]
  rw [hranges, hhosts, and_assoc, and_assoc]

end Network

/-! ## Pools as text -/

/-- Reads two addresses with a hyphen between them. -/
def AddressRange.ofChars? (cs : List Char) : Option AddressRange :=
  match Text.fieldsAt '-' cs with
  | [first, last] => do
    return ⟨← Ipv4.ofChars? Ipv4.paddedOctet? first, ← Ipv4.ofChars? Ipv4.paddedOctet? last⟩
  | _ => none

/-- Reads ranges with commas between them. -/
def AddressRange.listOfString? (s : String) : Option (List AddressRange) :=
  (Text.fieldsAt ',' s.toList).mapM ofChars?

open Script

/-- The command names ranges of addresses, and the address lies in one of them. -/
def Script.Command.Offers (c : Command) (a : Ipv4) : Prop :=
  ∃ ranges, (c.get? "ranges").bind AddressRange.listOfString? = some ranges ∧ ∃ r ∈ ranges, a ∈ r

/-- The pools that the DHCP servers on an interface hand out. -/
def Script.poolsOn (s : Script) (interface : String) : List Command :=
  ((s.commandsAt "/ip dhcp-server").filter (·.has "interface" interface)).flatMap fun server =>
    (s.commandsAt "/ip pool").filter fun pool => (server.get? "address-pool").any (pool.has "name")

namespace AddressRange

theorem toList_render (r : AddressRange) :
    r.render.toList = r.first.render.toList ++ '-' :: r.last.render.toList := by
  simp [render, toString]

theorem ofChars?_render (r : AddressRange) : ofChars? r.render.toList = some r := by
  have hfields : Text.fieldsAt '-' r.render.toList =
      [r.first.render.toList, r.last.render.toList] := by
    rw [toList_render, Text.fieldsAt_append (Ipv4.not_mem_render (by decide) (by decide) _),
      Text.fieldsAt_of_not_mem (Ipv4.not_mem_render (by decide) (by decide) _)]
  rw [ofChars?, hfields]
  simp [Ipv4.ofChars?_render]

theorem comma_not_mem_render (r : AddressRange) : ',' ∉ r.render.toList := by
  have hcomma : ∀ a : Ipv4, ',' ∉ a.render.toList := Ipv4.not_mem_render (by decide) (by decide)
  simp [toList_render, hcomma]

/-- Ranges are read back from how they are written. -/
theorem listOfString?_render {ranges : List AddressRange} (h : ranges ≠ []) :
    listOfString? (",".intercalate (ranges.map render)) = some ranges :=
  Text.mapM_fieldsAt_intercalate comma_not_mem_render ofChars?_render h

end AddressRange

/-! ## Pools of a script -/

namespace Network

variable {n : Network}

/-- Creates the pool of the network. -/
def poolCommand (n : Network) : Command :=
  ((Command.add "/ip pool").arg "name" n.poolName).list "ranges"
    (n.poolRanges.map AddressRange.render)

/-- Creates the DHCP server of the network. -/
def serverCommand (leaseTime : String) (n : Network) : Command :=
  (((((Command.add "/ip dhcp-server").arg "name" s!"dhcp-{n.name}").arg "interface" n.name).arg
    "address-pool" n.poolName).arg "lease-time" leaseTime).flag "disabled" false

theorem filter_pool_commands (n : Network) (profile : Profile) (resolver : Resolver) :
    (n.commands profile resolver).filter (·.path == "/ip pool") =
      if n.dhcp then [n.poolCommand] else [] := by
  unfold commands
  cases n.dhcp <;> cases n.hotspot <;>
    simp [addressCommand, dhcpCommands, hotspotCommands, poolCommand]

theorem filter_server_commands (n : Network) (profile : Profile) (resolver : Resolver) :
    (n.commands profile resolver).filter (·.path == "/ip dhcp-server") =
      if n.dhcp then [n.serverCommand profile.leaseTime] else [] := by
  unfold commands
  cases n.dhcp <;> cases n.hotspot <;>
    simp [addressCommand, dhcpCommands, hotspotCommands, serverCommand]

/-- A pool offers what its network hands out. -/
theorem offers_poolCommand_iff {a : Ipv4} :
    n.poolCommand.Offers a ↔ ∃ r ∈ n.poolRanges, a ∈ r := by
  have hvalue : n.poolCommand.get? "ranges" =
      some (",".intercalate (n.poolRanges.map AddressRange.render)) := by
    simp [poolCommand, Command.get?]
  rw [Command.Offers, hvalue, Option.bind_some]
  by_cases hranges : n.poolRanges = []
  · have hnone : AddressRange.listOfString? (",".intercalate ([].map AddressRange.render)) = none :=
      rfl
    rw [hranges, hnone]
    simp
  · rw [AddressRange.listOfString?_render hranges]
    simp only [Option.some.injEq, exists_eq_left']

end Network

namespace Blueprint

variable {b : Blueprint}

/-- What is said in the menus of services is said for the networks that have the service. -/
theorem commandsAt_service {path : String} {p : Network → Bool} {f : Network → Command}
    (hpath : path ∈ ["/ip pool", "/ip dhcp-server", "/ip dhcp-server network",
      "/ip hotspot profile", "/ip hotspot"])
    (hf : ∀ n : Network, (n.commands b.profile b.site.resolver).filter (·.path == path) =
      if p n then [f n] else []) :
    b.script.commandsAt path = (b.site.networks.filter p).map f := by
  have hnetworks : b.networkSection.commands.filter (·.path == path) =
      (b.site.networks.filter p).map f := by
    rw [commands_networkSection, List.filter_flatMap, ← flatMap_ite]
    simp only [hf]
  rw [← hnetworks]
  simp only [List.mem_cons, List.not_mem_nil, or_false] at hpath
  rcases hpath with rfl | rfl | rfl | rfl | rfl <;>
    simp [commandsAt_script, sections, sectionMenus]

theorem commandsAt_pool : b.script.commandsAt "/ip pool" =
    (b.site.networks.filter (·.dhcp)).map Network.poolCommand :=
  commandsAt_service (by simp) fun n => n.filter_pool_commands b.profile b.site.resolver

theorem commandsAt_server : b.script.commandsAt "/ip dhcp-server" =
    (b.site.networks.filter (·.dhcp)).map (Network.serverCommand b.profile.leaseTime) :=
  commandsAt_service (by simp) fun n => n.filter_server_commands b.profile b.site.resolver

/-- A network with DHCP has one pool. -/
theorem poolsOn_eq (hnames : (b.site.networks.map (·.name)).Nodup) {n : Network}
    (hn : n ∈ b.site.networks) (hdhcp : n.dhcp = true) :
    b.script.poolsOn n.name = [n.poolCommand] := by
  have hmem : n ∈ b.site.networks.filter (·.dhcp) := List.mem_filter.mpr ⟨hn, hdhcp⟩
  have hnodup : ((b.site.networks.filter (·.dhcp)).map (·.name)).Nodup :=
    hnames.sublist (List.filter_sublist.map _)
  have hservers : ((b.site.networks.filter (·.dhcp)).map
      (Network.serverCommand b.profile.leaseTime)).filter (·.has "interface" n.name) =
        [n.serverCommand b.profile.leaseTime] := by
    refine filter_map_of_nodup hnodup hmem ?_ fun m _ => ?_
    · simp [Network.serverCommand, Command.has, Command.get?]
    · simp [Network.serverCommand, Command.has, Command.get?]
  have hpool : (n.serverCommand b.profile.leaseTime).get? "address-pool" = some n.poolName := by
    simp [Network.serverCommand, Command.get?]
  rw [Script.poolsOn, commandsAt_server, hservers, List.flatMap_singleton, hpool, commandsAt_pool]
  refine filter_map_of_nodup hnodup hmem ?_ fun m _ hm => ?_
  · simp [Network.poolCommand, Command.has, Command.get?]
  · have hname : m.poolName = n.poolName := by
      simpa [Network.poolCommand, Command.has, Command.get?] using hm
    exact Network.poolName_injective hname

/-- Pools on the interface of a network belong to that network. -/
theorem of_mem_poolsOn (hnames : (b.site.networks.map (·.name)).Nodup) {n : Network}
    (hn : n ∈ b.site.networks) {c : Command} (hc : c ∈ b.script.poolsOn n.name) :
    n.dhcp = true ∧ c = n.poolCommand := by
  have hdhcp : n.dhcp = true := by
    obtain ⟨server, hserver, -⟩ := List.mem_flatMap.mp hc
    obtain ⟨hserver, hinterface⟩ := List.mem_filter.mp hserver
    rw [commandsAt_server] at hserver
    obtain ⟨m, hm, rfl⟩ := List.mem_map.mp hserver
    obtain ⟨hm, hdhcp⟩ := List.mem_filter.mp hm
    have hname : m.name = n.name := by
      simpa [Network.serverCommand, Command.has, Command.get?] using hinterface
    obtain rfl : m = n := eq_of_mem_of_nodup hnames hm hn hname
    exact hdhcp
  rw [poolsOn_eq hnames hn hdhcp] at hc
  exact ⟨hdhcp, List.mem_singleton.mp hc⟩

end Blueprint

/-! ## Compiled scripts -/

namespace Network

variable {m n : Network} {a : Ipv4}

theorem mem_cidr_of_offers (h : n.poolCommand.Offers a) : a ∈ n.cidr := by
  obtain ⟨-, hfirst, hlast, -⟩ := mem_poolRanges_iff.mp (offers_poolCommand_iff.mp h)
  exact Cidr.mem_iff.mpr ⟨Nat.le_of_lt hfirst, Nat.le_of_lt hlast⟩

end Network

/-- The four addresses of a subnet that has hosts leave one that is neither an end nor a given
address. -/
theorem Cidr.exists_host_ne {c : Cidr} (hlength : c.length ≤ 30) (a : Ipv4) :
    ∃ x, c.first < x ∧ x < c.last ∧ x ≠ a := by
  have hsize := four_le_size hlength
  have hlast := c.last_toNat
  have hbound := c.last.toNat_lt
  by_cases ha : a.toNat = c.first.toNat + 1
  · refine ⟨⟨c.first.toNat + 2, by omega⟩, ?_, ?_, mt (congrArg Ipv4.toNat) ?_⟩
    · show c.first.toNat < c.first.toNat + 2
      omega
    · show c.first.toNat + 2 < c.last.toNat
      omega
    · show ¬c.first.toNat + 2 = a.toNat
      omega
  · refine ⟨⟨c.first.toNat + 1, by omega⟩, ?_, ?_, mt (congrArg Ipv4.toNat) ?_⟩
    · show c.first.toNat < c.first.toNat + 1
      omega
    · show c.first.toNat + 1 < c.last.toNat
      omega
    · show ¬c.first.toNat + 1 = a.toNat
      omega

namespace Site.IsValid

variable {s : Site} {profile : Profile} {strict : Bool} {m n : Network} {a : Ipv4}

theorem exists_offers (hs : s.IsValid profile strict) (hn : n ∈ s.networks)
    (hdhcp : n.dhcp = true) : ∃ a, n.poolCommand.Offers a := by
  have hlength := hs.dhcp_length n hn hdhcp
  obtain ⟨a, hfirst, hlast, hrouter⟩ := Cidr.exists_host_ne hlength n.router
  exact ⟨a, Network.offers_poolCommand_iff.mpr
    (Network.mem_poolRanges_iff.mpr ⟨hlength, hfirst, hlast, hrouter⟩)⟩

/-- No two networks share an address. -/
theorem eq_of_mem_cidr (hs : s.IsValid profile strict) (hm : m ∈ s.networks) (hn : n ∈ s.networks)
    (ham : a ∈ m.cidr) (han : a ∈ n.cidr) : m = n := by
  have hpairs := hs.subnets_disjoint
  have hshared := List.Pairwise.forall_of_forall_of_flip
    (R := fun m n : Network => ∀ a, a ∈ m.cidr → a ∈ n.cidr → m = n) (fun _ _ _ _ _ => rfl)
    (hpairs.imp fun h a ham han => absurd ⟨ham, han⟩ (h a))
    (hpairs.imp fun h a han ham => absurd ⟨ham, han⟩ (h a))
  exact hshared hm hn a ham han

/-- What one network hands out no network needs for itself. -/
theorem ne_of_offers (hs : s.IsValid profile strict) (hm : m ∈ s.networks) (hn : n ∈ s.networks)
    (h : m.poolCommand.Offers a) :
    a ≠ n.router ∧ (n.cidr.length ≤ 30 → a ≠ n.cidr.first ∧ a ≠ n.cidr.last) := by
  have ham := Network.mem_cidr_of_offers h
  obtain ⟨-, hfirst, hlast, hrouter⟩ :=
    Network.mem_poolRanges_iff.mp (Network.offers_poolCommand_iff.mp h)
  -- The router and the ends are addresses of their network, so an address of the pool that is one
  -- of them is handed out by that very network, which leaves them out.
  have hown : ∀ x ∈ n.cidr, a = x → m = n := by
    intro x hx hax
    subst hax
    exact hs.eq_of_mem_cidr hm hn ham hx
  refine ⟨fun hax => ?_, fun _ => ⟨fun hax => ?_, fun hax => ?_⟩⟩
  · obtain rfl := hown _ n.cidr.address_mem hax
    exact hrouter hax
  · obtain rfl := hown _ n.cidr.first_mem hax
    rw [hax] at hfirst
    exact Nat.lt_irrefl _ hfirst
  · obtain rfl := hown _ n.cidr.last_mem hax
    rw [hax] at hlast
    exact Nat.lt_irrefl _ hlast

end Site.IsValid

/-- **The pools of a compiled script keep apart.** A network with DHCP has one pool, which offers
something and nothing outside the subnet of the network, and there are no other pools. No address is
offered by the pools of two networks, and none that is offered is the router of a network or an end
of a subnet that has hosts. -/
theorem compile_separates_pools {s : Site} {profile : Profile} {options : CompileOptions}
    {out : Compiled} (h : compile s profile options = .ok out) :
    (∀ n ∈ s.networks, n.dhcp = true → ∃ c, out.script.poolsOn n.name = [c] ∧ c.adds = true ∧
      (∃ a, c.Offers a) ∧ ∀ a, c.Offers a → a ∈ n.subnet) ∧
    (∀ c ∈ out.script.commandsAt "/ip pool", ∃ n ∈ s.networks, n.dhcp = true ∧
      out.script.poolsOn n.name = [c]) ∧
    (s.networks.Pairwise fun m n => ∀ c ∈ out.script.poolsOn m.name,
      ∀ d ∈ out.script.poolsOn n.name, ∀ a, ¬(c.Offers a ∧ d.Offers a)) ∧
    ∀ c ∈ out.script.commandsAt "/ip pool", ∀ a, c.Offers a → ∀ n ∈ s.networks,
      a ≠ n.router ∧ (n.cidr.length ≤ 30 → a ≠ n.cidr.first ∧ a ≠ n.cidr.last) := by
  obtain ⟨hs, -, hscript, -⟩ := of_compile_eq_ok h
  let b : Blueprint := .mk s profile out.plan options.generatedAt
  have hpools : ∀ n ∈ s.networks, n.dhcp = true → out.script.poolsOn n.name = [n.poolCommand] := by
    intro n hn hdhcp
    rw [hscript]
    exact b.poolsOn_eq hs.network_names_nodup hn hdhcp
  have hcommands : ∀ c ∈ out.script.commandsAt "/ip pool", ∃ n ∈ s.networks, n.dhcp = true ∧
      c = n.poolCommand := by
    intro c hc
    rw [hscript, b.commandsAt_pool] at hc
    obtain ⟨n, hn, rfl⟩ := List.mem_map.mp hc
    obtain ⟨hn, hdhcp⟩ := List.mem_filter.mp hn
    exact ⟨n, hn, hdhcp, rfl⟩
  refine ⟨fun n hn hdhcp => ?_, fun c hc => ?_, ?_, fun c hc a ha n hn => ?_⟩
  · refine ⟨n.poolCommand, hpools n hn hdhcp, ?_, hs.exists_offers hn hdhcp, fun a ha => ?_⟩
    · simp [Network.poolCommand]
    · exact Cidr.mem_subnet.mpr (Network.mem_cidr_of_offers ha)
  · obtain ⟨n, hn, hdhcp, rfl⟩ := hcommands c hc
    exact ⟨n, hn, hdhcp, hpools n hn hdhcp⟩
  · refine hs.subnets_disjoint.imp_of_mem fun {m n} hm hn hdisjoint c hc d hd a hcd => ?_
    rw [hscript] at hc hd
    obtain ⟨-, rfl⟩ := b.of_mem_poolsOn hs.network_names_nodup hm hc
    obtain ⟨-, rfl⟩ := b.of_mem_poolsOn hs.network_names_nodup hn hd
    exact hdisjoint a ⟨Network.mem_cidr_of_offers hcd.1, Network.mem_cidr_of_offers hcd.2⟩
  · obtain ⟨m, hm, -, rfl⟩ := hcommands c hc
    exact hs.ne_of_offers hm hn ha

/-- The guests of the sample have a pool, and it does not reach the router of the office. -/
theorem compile_separates_pools_of_sample :
    ∃ out, compile .sample .builtin .sample = .ok out ∧
      ∃ c, out.script.poolsOn "vlan10" = [c] ∧ (∃ a, c.Offers a) ∧
        ¬c.Offers ⟨0xc0a81401, by decide⟩ := by
  obtain ⟨out, h⟩ := exists_compile_sample
  obtain ⟨hpools, -, -, hrouters⟩ := compile_separates_pools h
  obtain ⟨c, hc, -, hoffers, hinside⟩ := hpools Site.sample.networks[0] (List.getElem_mem _) rfl
  refine ⟨out, h, c, hc, hoffers, fun hoffice => ?_⟩
  have hoffice := hinside _ hoffice
  revert hoffice
  simp only [Network.subnet, Cidr.mem_def]
  decide

end SiteRouter
