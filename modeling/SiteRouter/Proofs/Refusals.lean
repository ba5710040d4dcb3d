import SiteRouter.Proofs.Printing
import SiteRouter.Proofs.Reports
import SiteRouter.Proofs.RoutedUplinks
import SiteRouter.Proofs.Tagging

/-!
# What a script is refused for

A script is refused for a character that the console cannot take, and the texts of a site reach it
in two ways: the name of the device and the ids of routed uplinks also stand in comments, as they
are, while all other texts are values, where line controls have escapes. `Site.HasForeignText` says
which texts of a site no script can hold.

There is one lemma for each kind of command and one for each section, which says what the console
has to take for the section to be written; the names of ports, networks and tables are always taken
(`Blueprint.HasPlainNames`). Together they make `compile_refuses_iff`.
-/

namespace SiteRouter

open Script

/-- The texts of the profile. -/
def Profile.texts (p : Profile) : List String :=
  [p.bridgeName, p.wanList, p.managementList, p.localList, p.timeZone, p.adminUser, p.adminGroup,
    p.managementService, p.leaseTime, p.heartbeatScript, p.heartbeatInterval] ++
  p.ntpServers ++ p.disabledServices ++ p.hotspotLoginBy

/-- The console takes the texts of the profile and the names of ports, networks and tables. -/
structure Blueprint.HasPlainNames (b : Blueprint) : Prop where
  profile : ∀ t ∈ b.profile.texts, IsPrintable t
  bridge : IsPrintable b.plan.vlans.bridge
  ports : ∀ p ∈ b.plan.vlans.ports, IsPrintable p.port
  members : ∀ m ∈ b.plan.vlans.vlans, ∀ port ∈ m.tagged, IsPrintable port
  uplinks : ∀ u ∈ b.site.uplinks, IsPrintable u.interface
  networks : ∀ n ∈ b.site.networks, IsPrintable n.name
  marks : ∀ m ∈ b.plan.steering.marks, IsPrintable m.interface ∧ IsPrintable m.table

/-! ## Commands -/

section Commands

variable {bridge : String}

theorem BridgePort.isWritable_command {p : BridgePort} (hbridge : IsPrintable bridge)
    (hport : IsPrintable p.port) : (p.command bridge).IsWritable := by
  have hframes : IsPrintable p.frameTypes := by
    unfold frameTypes
    split
    · decide
    · split <;> decide
  simp +decide [command, hbridge, hport, hframes, toString]

theorem Network.isWritable_vlanCommand {n : Network} (hbridge : IsPrintable bridge)
    (hname : IsPrintable n.name) : (n.vlanCommand bridge).IsWritable := by
  simp +decide [vlanCommand, hbridge, hname, toString]

theorem Membership.isWritable_command {m : Membership} (hbridge : IsPrintable bridge)
    (htagged : ∀ port ∈ m.tagged, IsPrintable port) : (m.command bridge).IsWritable := by
  simp +decide [command, Command.isWritable_list htagged, hbridge, toString]

/-- The console can take the credentials of the uplink as values. -/
def Uplink.HasQuotableCredentials (u : Uplink) : Prop :=
  ∀ username password, u.kind = .pppoe username password →
    (∀ name ∈ username, IsQuotable name) ∧ ∀ word ∈ password, IsQuotable word

theorem Uplink.isPrintable_egress {u : Uplink} (hinterface : IsPrintable u.interface)
    (position : Nat) : IsPrintable (u.egress position) := by
  have hclient : IsPrintable (pppoeInterface position) := by
    simp +decide [pppoeInterface, toString]
  unfold egress
  cases u.kind with
  | pppoe username password => exact hclient
  | «static» address gateway => exact hinterface
  | dhcp => exact hinterface

theorem Uplink.isWritable_bringUp {u : Uplink} (hinterface : IsPrintable u.interface)
    (position : Nat) : (u.bringUp position).IsWritable ↔
      IsQuotable u.id ∧ u.HasQuotableCredentials := by
  have hegress := isPrintable_egress hinterface position
  unfold bringUp HasQuotableCredentials
  cases u.kind with
  | pppoe username password =>
    simp +decide [hinterface, hegress, and_comm]
  | «static» address gateway =>
    simp +decide [hinterface]
  | dhcp => simp +decide [hinterface]

theorem Uplink.isWritable_memberCommand {u : Uplink} {list : String} (hlist : IsPrintable list)
    (hinterface : IsPrintable u.interface) (position : Nat) :
    (u.memberCommand list position).IsWritable := by
  simp +decide [memberCommand, hlist, isPrintable_egress hinterface position]

theorem Network.isPrintable_poolName {n : Network} (hname : IsPrintable n.name) :
    IsPrintable n.poolName := by
  unfold poolName
  split
  · simp +decide [hotspotPoolName, hname, toString]
  · simp +decide [plainPoolName, hname, toString]

theorem Network.isWritable_dhcpCommands {n : Network} {leaseTime : String} (dns : List Ipv4)
    (hlease : IsPrintable leaseTime) (hname : IsPrintable n.name) :
    ∀ c ∈ n.dhcpCommands leaseTime dns, c.IsWritable := by
  have hpool := isPrintable_poolName hname
  have hranges : ∀ t ∈ n.poolRanges.map AddressRange.render, IsPrintable t :=
    List.forall_mem_map.mpr fun r _ => r.isPrintable_render
  have hservers : ∀ t ∈ dns.map Ipv4.render, IsPrintable t :=
    List.forall_mem_map.mpr fun a _ => a.isPrintable_render
  simp +decide [dhcpCommands, Command.isWritable_list hranges, Command.isWritable_list hservers,
    hpool, hlease, hname, toString]

theorem Network.isWritable_hotspotCommands {n : Network} {loginBy : List String}
    (hlogin : ∀ t ∈ loginBy, IsPrintable t) (hname : IsPrintable n.name) :
    ∀ c ∈ n.hotspotCommands loginBy, c.IsWritable := by
  have hpool := isPrintable_poolName hname
  simp +decide [hotspotCommands, hotspotProfile, Command.isWritable_list hlogin, hpool, hname,
    toString]

theorem Network.isWritable_commands {n : Network} {profile : Profile} {resolver : Resolver}
    (hlease : IsPrintable profile.leaseTime) (hlogin : ∀ t ∈ profile.hotspotLoginBy, IsPrintable t)
    (hname : IsPrintable n.name) :
    (∀ c ∈ n.commands profile resolver, c.IsWritable) ↔ IsQuotable n.id := by
  have haddress : n.addressCommand.IsWritable ↔ IsQuotable n.id := by
    simp +decide [addressCommand, hname]
  have hservices : ∀ c ∈ (if n.dhcp then
      n.dhcpCommands profile.leaseTime (resolver.handedOut n.router) ++
        if n.hotspot then n.hotspotCommands profile.hotspotLoginBy else [] else []),
      c.IsWritable := by
    split
    · rw [List.forall_mem_append]
      refine ⟨isWritable_dhcpCommands _ hlease hname, ?_⟩
      split
      · exact isWritable_hotspotCommands hlogin hname
      · exact List.forall_mem_nil _
    · exact List.forall_mem_nil _
  rw [commands, List.forall_mem_cons, haddress, and_iff_left hservices]

/-- Routes are written from addresses, numbers, and the texts of the plan. -/
theorem Route.isWritable_command {r : Route} (hgateway : IsPrintable r.gateway.render)
    (htable : ∀ t ∈ r.table, IsPrintable t) (hcomment : IsPrintable r.comment) :
    r.command.IsWritable := by
  have htable : ∀ t, r.table = some t → IsQuotable t := fun t ht => (htable t ht).isQuotable
  unfold command
  split
  · simpa +decide [hgateway, hcomment, toString] using htable
  · simpa +decide [hgateway, hcomment, toString] using htable

namespace UplinkRoutes

variable {uplinks : List Uplink} {probes : List Ipv4} {r : UplinkRoutes}

theorem IsFor.isPrintable_table (h : r.IsFor uplinks probes) : IsPrintable r.table := by
  rw [h.table_eq]
  simp +decide [toString]

theorem IsFor.isPrintable_gateway (h : r.IsFor uplinks probes) :
    IsPrintable r.gateway.render := by
  obtain ⟨k, u, -, -, -, -, hgateway⟩ := h.placed
  generalize r.gateway = gateway at hgateway
  cases hgateway with
  | address address gateway kind => exact gateway.isPrintable_render
  | client username password kind => simp +decide [Gateway.render, toString]

/-- A backup is taken if the id of the uplink behind it is. -/
theorem IsFor.isWritable_backup {other : UplinkRoutes} (h : r.IsFor uplinks probes)
    (hother : other.IsFor uplinks probes) (hid : IsPrintable other.uplink) :
    (r.backupThrough other).command.IsWritable := by
  refine Route.isWritable_command hother.isPrintable_gateway ?_ ?_
  · intro t ht
    obtain rfl := Option.some.inj ht
    exact h.isPrintable_table
  · simp +decide [backupThrough, h.isPrintable_table, hid, toString]

/-- The routes through the probe are taken if the id of the uplink is. -/
theorem IsFor.isWritable_own (h : r.IsFor uplinks probes) (hid : IsPrintable r.uplink) :
    r.hostRoute.command.IsWritable ∧ r.tableDefault.command.IsWritable ∧
      r.mainDefault.command.IsWritable := by
  refine ⟨Route.isWritable_command ?_ ?_ ?_, Route.isWritable_command ?_ ?_ ?_,
    Route.isWritable_command ?_ ?_ ?_⟩
  · simp [h.hostRoute_eq, h.isPrintable_gateway]
  · simp [h.hostRoute_eq]
  · simp +decide [h.hostRoute_eq, hid, toString]
  · simp [h.tableDefault_eq, Gateway.render]
  · simp [h.tableDefault_eq, h.isPrintable_table]
  · simp +decide [h.tableDefault_eq, h.isPrintable_table, toString]
  · simp [h.mainDefault_eq, Gateway.render]
  · simp [h.mainDefault_eq]
  · simp +decide [h.mainDefault_eq, hid, toString]

end UplinkRoutes

theorem Mark.isWritable_command {m : Mark} {localList : String} (hlist : IsPrintable localList)
    (hinterface : IsPrintable m.interface) (htable : IsPrintable m.table) :
    (m.command localList).IsWritable ↔ IsQuotable m.network ∧ IsQuotable m.uplink := by
  simp +decide [command, prerouting, hlist, hinterface, htable, toString]

end Commands

namespace Blueprint

variable {b : Blueprint}

theorem isWritable_bridgeSection (h : b.HasPlainNames) : b.bridgeSection.IsWritable := by
  rw [bridgeSection, Section.isWritable_ofCommands (by decide)]
  simp only [List.forall_mem_append, List.forall_mem_singleton, List.forall_mem_map]
  refine ⟨⟨⟨?_, fun p hp => ?_⟩, fun n hn => ?_⟩, fun m hm => ?_⟩
  · simp +decide [h.bridge]
  · exact BridgePort.isWritable_command h.bridge (h.ports p hp)
  · exact Network.isWritable_vlanCommand h.bridge (h.networks n hn)
  · exact Membership.isWritable_command h.bridge (h.members m hm)

theorem isWritable_identityCommands (h : b.HasPlainNames) :
    (∀ c ∈ b.identityCommands, c.IsWritable) ↔ IsQuotable b.site.identity := by
  have hzone : IsPrintable b.profile.timeZone := h.profile _ (by simp [Profile.texts])
  have hntp : ∀ t ∈ b.profile.ntpServers, IsPrintable t :=
    fun t ht => h.profile t (by simp [Profile.texts, ht])
  have hclient : ∀ c ∈ (if b.profile.ntpServers.isEmpty then [] else
      [((Command.set "/system ntp client").flag "enabled" true).list "servers"
        b.profile.ntpServers]), c.IsWritable := by
    split
    · exact List.forall_mem_nil _
    · rw [List.forall_mem_singleton]
      simp +decide [Command.isWritable_list hntp]
  rw [identityCommands, List.forall_mem_append, and_iff_left hclient]
  simp +decide [hzone]

theorem isWritable_accountCommand (h : b.HasPlainNames) : b.accountCommand.IsWritable ↔
    ∀ password ∈ b.site.management.adminPassword, IsQuotable password := by
  have huser : IsPrintable b.profile.adminUser := h.profile _ (by simp [Profile.texts])
  have hgroup : IsPrintable b.profile.adminGroup := h.profile _ (by simp [Profile.texts])
  simp +decide [accountCommand, huser, hgroup]

theorem isWritable_serviceCommands (h : b.HasPlainNames) :
    ∀ c ∈ b.serviceCommands, c.IsWritable := by
  have hmanagement : IsPrintable b.profile.managementService :=
    h.profile _ (by simp [Profile.texts])
  have hservices : ∀ t ∈ b.profile.disabledServices, IsPrintable t :=
    fun t ht => h.profile t (by simp [Profile.texts, ht])
  have hallowed : ∀ t ∈ b.profile.managementAllowList.map Cidr.render, IsPrintable t :=
    List.forall_mem_map.mpr fun c _ => c.isPrintable_render
  rw [serviceCommands, List.forall_mem_append, List.forall_mem_map, List.forall_mem_singleton]
  refine ⟨fun name hname => ?_, ?_⟩
  · have hname := hservices name (List.mem_filter.mp hname).1
    simp +decide [hname]
  · split
    · simp +decide [hmanagement]
    · simp +decide [Command.isWritable_list hallowed, hmanagement]

theorem isWritable_deviceSection (h : b.HasPlainNames) : b.deviceSection.IsWritable ↔
    IsQuotable b.site.identity ∧
      ∀ password ∈ b.site.management.adminPassword, IsQuotable password := by
  have hgenerated : (Section.mk "system" [.comment s!"generated {b.generatedAt}"]).IsWritable := by
    have hname : IsPrintable "system" := by decide
    refine ⟨hname, List.forall_mem_singleton.mpr ?_⟩
    show IsPrintable s!"generated {b.generatedAt}"
    simp +decide [toString]
  rw [deviceSection, Section.isWritable_extend, and_iff_right hgenerated, List.forall_mem_append,
    List.forall_mem_append, List.forall_mem_singleton, isWritable_identityCommands h,
    isWritable_accountCommand h, and_iff_left (isWritable_serviceCommands h)]

theorem isWritable_networkSection (h : b.HasPlainNames) : b.networkSection.IsWritable ↔
    ∀ n ∈ b.site.networks, IsQuotable n.id := by
  rw [networkSection, Section.isWritable_ofCommands (by decide), List.forall_mem_flatMap]
  refine forall₂_congr fun n hn => Network.isWritable_commands ?_ ?_ (h.networks n hn)
  · exact h.profile _ (by simp [Profile.texts])
  · intro t ht
    exact h.profile t (by simp [Profile.texts, ht])

theorem isWritable_resolverSection : b.resolverSection.IsWritable := by
  have hservers : ∀ t ∈ b.site.resolver.servers.map IpAddress.render, IsPrintable t :=
    List.forall_mem_map.mpr fun a _ => a.isPrintable_render
  rw [resolverSection, Section.isWritable_ofCommands (by decide)]
  simp +decide [Command.isWritable_list hservers]

theorem isWritable_masqueradeSection (h : b.HasPlainNames) : b.masqueradeSection.IsWritable ↔
    ∀ n ∈ b.site.networks, n.hotspot = true → IsQuotable n.id := by
  have hlist : IsPrintable b.profile.wanList := h.profile _ (by simp [Profile.texts])
  rw [masqueradeSection, Section.isWritable_ofCommands (by decide), List.forall_mem_cons,
    List.forall_mem_map]
  simp +decide [sourceRule, hlist, toString]

/-- Quoting the URL and the token twice lets no other characters through than quoting them once. -/
theorem isQuotable_heartbeatSource {url token : String} :
    IsQuotable (heartbeatSource url token) ↔ IsQuotable url ∧ IsQuotable token := by
  have hurl : IsQuotable "/tool fetch url=" := by decide
  have hmethod : IsQuotable " http-method=post http-header-field=" := by decide
  have hbearer : IsQuotable "Authorization: Bearer " := by decide
  have houtput : IsQuotable " output=none" := by decide
  unfold heartbeatSource
  simp only [isQuotable_append, isQuotable_quote, hurl, hmethod, hbearer, houtput, true_and,
    and_true]

theorem isWritable_heartbeatSection (h : b.HasPlainNames) : b.heartbeatSection.IsWritable ↔
    IsQuotable b.site.management.heartbeatUrl ∧ IsQuotable b.site.management.token := by
  have hname : IsPrintable b.profile.heartbeatScript := h.profile _ (by simp [Profile.texts])
  have hinterval : IsPrintable b.profile.heartbeatInterval :=
    h.profile _ (by simp [Profile.texts])
  rw [heartbeatSection, Section.isWritable_ofCommands (by decide)]
  simp +decide [isQuotable_heartbeatSource, hname, hinterval]

theorem isWritable_addressListCommands (h : b.HasPlainNames) :
    (∀ c ∈ b.addressListCommands, c.IsWritable) ↔ ∀ n ∈ b.site.networks, IsQuotable n.id := by
  have hlocal : IsPrintable b.profile.localList := h.profile _ (by simp [Profile.texts])
  have hmanagement : IsPrintable b.profile.managementList :=
    h.profile _ (by simp [Profile.texts])
  rw [addressListCommands, List.forall_mem_append, List.forall_mem_map, List.forall_mem_map]
  simp +decide [addressEntry, hlocal, hmanagement]

theorem isWritable_inputRules (h : b.HasPlainNames) : ∀ c ∈ b.inputRules, c.IsWritable := by
  have hlocal : IsPrintable b.profile.localList := h.profile _ (by simp [Profile.texts])
  have hmanagement : IsPrintable b.profile.managementList :=
    h.profile _ (by simp [Profile.texts])
  simp +decide [inputRules, inputRule, hlocal, hmanagement]

theorem isWritable_markRules (h : b.HasPlainNames) : (∀ c ∈ b.markRules, c.IsWritable) ↔
    ∀ m ∈ b.plan.steering.marks, IsQuotable m.network ∧ IsQuotable m.uplink := by
  have hlocal : IsPrintable b.profile.localList := h.profile _ (by simp [Profile.texts])
  have hbypass : (((prerouting.arg "src-address-list" b.profile.localList).arg
      "dst-address-list" b.profile.localList).does "accept" "local bypass").IsWritable := by
    simp +decide [prerouting, hlocal]
  rw [markRules, List.forall_mem_cons, and_iff_right hbypass, List.forall_mem_map]
  exact forall₂_congr fun m hm =>
    Mark.isWritable_command hlocal (h.marks m hm).1 (h.marks m hm).2

theorem isWritable_firewallSection (h : b.HasPlainNames) : b.firewallSection.IsWritable ↔
    (∀ n ∈ b.site.networks, IsQuotable n.id) ∧
      ∀ m ∈ b.plan.steering.marks, IsQuotable m.network ∧ IsQuotable m.uplink := by
  rw [firewallSection, Section.isWritable_ofCommands (by decide), List.forall_mem_append,
    List.forall_mem_append, isWritable_addressListCommands h,
    and_iff_left (isWritable_inputRules h), isWritable_markRules h]

/-- What is written of routed uplinks besides their ids is taken. -/
theorem isWritable_routeLines (hf : b.plan.failover.IsFor b.site.uplinks b.profile.probes) :
    (∀ r ∈ b.plan.failover.uplinks, ∀ line ∈ r.lines, line.IsWritable) ↔
      ∀ r ∈ b.plan.failover.uplinks, IsPrintable r.uplink := by
  constructor
  · -- The comment above the routes of an uplink names it outside of any value.
    intro h r hr
    have hcomment : IsPrintable s!"{r.table} via {r.uplink}" := h r hr _ (List.mem_cons_self ..)
    simp only [toString, isPrintable_append] at hcomment
    exact hcomment.2
  · intro h r hr
    have hroutes := hf.routes_isFor r hr
    have hid := h r hr
    obtain ⟨hhost, htable, hmain⟩ := hroutes.isWritable_own hid
    rw [UplinkRoutes.lines, List.forall_mem_cons, List.forall_mem_cons, List.forall_mem_map]
    refine ⟨?_, ?_, ?_⟩
    · show IsPrintable s!"{r.table} via {r.uplink}"
      simp +decide [hroutes.isPrintable_table, hid, toString]
    · show r.tableCommand.IsWritable
      simp +decide [UplinkRoutes.tableCommand, hroutes.isPrintable_table]
    · show ∀ route ∈ _ :: _ :: _ :: _, Command.IsWritable (Route.command route)
      simp only [List.forall_mem_cons, hf.backups_eq r hr, List.forall_mem_map]
      refine ⟨hhost, htable, hmain, fun other hother => ?_⟩
      have hother := (List.mem_filter.mp hother).1
      exact hroutes.isWritable_backup (hf.routes_isFor other hother) (h other hother)

theorem isWritable_uplinkSection (h : b.HasPlainNames)
    (hf : b.plan.failover.IsFor b.site.uplinks b.profile.probes) : b.uplinkSection.IsWritable ↔
    (∀ u ∈ b.site.uplinks, IsQuotable u.id ∧ u.HasQuotableCredentials) ∧
      ∀ r ∈ b.plan.failover.uplinks, IsPrintable r.uplink := by
  have hlist : IsPrintable b.profile.wanList := h.profile _ (by simp [Profile.texts])
  have hname : IsPrintable b.uplinkSection.name := by
    show IsPrintable "uplinks"
    decide
  have hcreate : (Line.command ((Command.add "/interface list").arg "name"
      b.profile.wanList)).IsWritable := by
    show Command.IsWritable _
    simp +decide [hlist]
  have hplaced : (∀ x ∈ b.site.placedUplinks, ∀ line ∈ [Line.command (x.2.bringUp x.1),
      .command (x.2.memberCommand b.profile.wanList x.1)], line.IsWritable) ↔
      ∀ u ∈ b.site.uplinks, IsQuotable u.id ∧ u.HasQuotableCredentials := by
    have hone : ∀ u ∈ b.site.uplinks, ∀ i, (∀ line ∈ [Line.command (u.bringUp i),
        .command (u.memberCommand b.profile.wanList i)], line.IsWritable) ↔
          IsQuotable u.id ∧ u.HasQuotableCredentials := by
      intro u hu i
      have hinterface := h.uplinks u hu
      rw [List.forall_mem_cons, List.forall_mem_singleton,
        ← Uplink.isWritable_bringUp hinterface i]
      exact and_iff_left (Uplink.isWritable_memberCommand hlist hinterface i)
    constructor
    · intro hall u hu
      obtain ⟨k, hk⟩ := List.mem_iff_getElem?.mp hu
      have hmem : (k + 1, u) ∈ b.site.placedUplinks := Site.mem_placedUplinks.mpr ⟨k, hk, rfl⟩
      exact (hone u hu (k + 1)).mp (hall _ hmem)
    · intro hall ⟨i, u⟩ hmem
      obtain ⟨k, hk, -⟩ := Site.mem_placedUplinks.mp hmem
      have hu := List.mem_of_getElem? hk
      exact (hone u hu i).mpr (hall u hu)
  rw [← hplaced, ← isWritable_routeLines hf, Section.IsWritable, and_iff_right hname,
    uplinkSection]
  simp only [List.forall_mem_append, List.forall_mem_singleton, List.forall_mem_flatMap]
  rw [and_iff_right hcreate]

end Blueprint

/-! ## Sites -/

/-- The console can take the texts of the site: the name of the device and the ids of the uplinks
that the plan routes as they are, the others as values. -/
structure Site.TakesTexts (s : Site) (f : Failover) : Prop where
  identity : IsPrintable s.identity
  routed : ∀ r ∈ f.uplinks, IsPrintable r.uplink
  uplinks : ∀ u ∈ s.uplinks, IsQuotable u.id ∧ u.HasQuotableCredentials
  networks : ∀ n ∈ s.networks, IsQuotable n.id
  password : ∀ password ∈ s.management.adminPassword, IsQuotable password
  heartbeat : IsQuotable s.management.heartbeatUrl ∧ IsQuotable s.management.token

theorem Blueprint.isWritable_script {b : Blueprint} (h : b.HasPlainNames)
    (hf : b.plan.failover.IsFor b.site.uplinks b.profile.probes)
    (hmarks : ∀ m ∈ b.plan.steering.marks, ∃ n ∈ b.site.networks,
      ∃ r ∈ b.plan.failover.uplinks, m.network = n.id ∧ m.uplink = r.uplink) :
    b.script.IsWritable ↔ b.site.TakesTexts b.plan.failover := by
  have hheader : (∀ text ∈ b.script.header, IsPrintable text) ↔ IsPrintable b.site.identity := by
    show (∀ text ∈ [_], IsPrintable text) ↔ _
    rw [List.forall_mem_singleton]
    simp +decide [toString]
  rw [Script.IsWritable, hheader]
  show _ ∧ (∀ sec ∈ b.sections, sec.IsWritable) ↔ _
  simp only [sections, List.forall_mem_cons, isWritable_deviceSection h, isWritable_bridgeSection h,
    isWritable_uplinkSection h hf, isWritable_networkSection h, isWritable_resolverSection,
    isWritable_firewallSection h, isWritable_masqueradeSection h, isWritable_heartbeatSection h]
  constructor
  · rintro ⟨hidentity, ⟨_, hpassword⟩, _, ⟨huplinks, hrouted⟩, hnetworks, _, _, _, hheartbeat, _⟩
    exact ⟨hidentity, hrouted, huplinks, hnetworks, hpassword, hheartbeat⟩
  · intro hall
    refine ⟨hall.identity, ⟨hall.identity.isQuotable, hall.password⟩, trivial,
      ⟨hall.uplinks, hall.routed⟩, hall.networks, trivial, ⟨hall.networks, fun m hm => ?_⟩,
      fun n hn _ => hall.networks n hn, hall.heartbeat, List.forall_mem_nil _⟩
    obtain ⟨n, hn, r, hr, hnetwork, huplink⟩ := hmarks m hm
    rw [hnetwork, huplink]
    exact ⟨hall.networks n hn, (hall.routed r hr).isQuotable⟩

theorem IsInterfaceName.isPrintable {name : String} (h : IsInterfaceName name) :
    IsPrintable name :=
  fun _ hc => isConsoleChar_of_isBare (h.isBare_of_mem hc)

/-- Ports and networks of a valid site have names that the console takes. -/
theorem Site.IsValid.hasPlainNames {s : Site} {profile : Profile} {strict : Bool}
    {overflow : Overflow} {p : Plan} {generatedAt : Timestamp} (hs : s.IsValid profile strict)
    (hp : Plan.build s profile overflow = .ok p) (hprofile : ∀ t ∈ profile.texts, IsPrintable t) :
    (Blueprint.mk s profile p generatedAt).HasPlainNames := by
  have hsound : (Blueprint.mk s profile p generatedAt).IsSound := isSound_of_build_eq_ok hs hp
  have hbridge : IsPrintable p.vlans.bridge := by
    rw [(VlanTable.of_plan_eq_ok (Plan.of_build_eq_ok hp).1).1]
    exact hprofile _ (by simp [Profile.texts])
  have hports : ∀ q ∈ p.vlans.ports, IsPrintable q.port := by
    intro q hq
    obtain ⟨port, hport, hname⟩ := hsound.joined_ports q hq
    rw [← hname]
    exact (hs.port_names port hport).isPrintable
  refine ⟨hprofile, hbridge, hports, fun m hm port hport => ?_, fun u hu => ?_,
    fun n hn => (hs.network_names n hn).isPrintable, fun m hm => ?_⟩
  · obtain ⟨members, htagged, hmembers⟩ := hsound.tagged_members m hm
    rw [htagged] at hport
    rcases List.mem_cons.mp hport with rfl | hport
    · exact hbridge
    · obtain ⟨q, hq, rfl⟩ := List.mem_map.mp (hmembers hport)
      exact hports q hq
  · obtain ⟨port, hport, hname⟩ := hs.uplink_ports u hu
    rw [← hname]
    exact (hs.port_names port hport).isPrintable
  · obtain ⟨n, hn, r, hr, hname, htable⟩ := hsound.marked m hm
    rw [hname, htable]
    exact ⟨(hs.network_names n hn).isPrintable,
      (hsound.failover_isFor.routes_isFor r hr).isPrintable_table⟩

/-- A text of the site that no script can hold: the name of the device or the id of a routed uplink
that the console cannot take as it is, or another text that it cannot take as a value. -/
inductive Site.HasForeignText (s : Site) (f : Failover) : Prop where
  | identity (foreign : ¬IsPrintable s.identity)
  | routedUplink (u : Uplink) (mem : u ∈ s.uplinks) (routed : u.id ∈ f.uplinks.map (·.uplink))
      (foreign : ¬IsPrintable u.id)
  | unroutedUplink (u : Uplink) (mem : u ∈ s.uplinks)
      (unrouted : u.id ∉ f.uplinks.map (·.uplink)) (foreign : ¬IsQuotable u.id)
  | network (n : Network) (mem : n ∈ s.networks) (foreign : ¬IsQuotable n.id)
  | token (foreign : ¬IsQuotable s.management.token)
  | heartbeatUrl (foreign : ¬IsQuotable s.management.heartbeatUrl)
  | adminPassword (password : String) (given : s.management.adminPassword = some password)
      (foreign : ¬IsQuotable password)
  | username (u : Uplink) (mem : u ∈ s.uplinks) (username : String) (password : Option String)
      (kind : u.kind = .pppoe (some username) password) (foreign : ¬IsQuotable username)
  | password (u : Uplink) (mem : u ∈ s.uplinks) (username : Option String) (password : String)
      (kind : u.kind = .pppoe username (some password)) (foreign : ¬IsQuotable password)

/-- The texts are taken where none is foreign. -/
theorem Site.takesTexts_iff {s : Site} {f : Failover} {probes : List Ipv4}
    (hf : f.IsFor s.uplinks probes) : s.TakesTexts f ↔ ¬s.HasForeignText f := by
  constructor
  · intro h hforeign
    cases hforeign with
    | identity foreign => exact foreign h.identity
    | routedUplink u mem routed foreign =>
      obtain ⟨r, hr, hid⟩ := List.mem_map.mp routed
      exact foreign (hid ▸ h.routed r hr)
    | unroutedUplink u mem unrouted foreign => exact foreign (h.uplinks u mem).1
    | network n mem foreign => exact foreign (h.networks n mem)
    | token foreign => exact foreign h.heartbeat.2
    | heartbeatUrl foreign => exact foreign h.heartbeat.1
    | adminPassword password given foreign => exact foreign (h.password password given)
    | username u mem username password kind foreign =>
      exact foreign (((h.uplinks u mem).2 _ _ kind).1 username rfl)
    | password u mem username password kind foreign =>
      exact foreign (((h.uplinks u mem).2 _ _ kind).2 password rfl)
  · intro h
    have hrouted : ∀ u ∈ s.uplinks, u.id ∈ f.uplinks.map (·.uplink) → IsPrintable u.id :=
      fun u hu hmem => Decidable.byContradiction fun hforeign =>
        h (.routedUplink u hu hmem hforeign)
    refine ⟨?_, ?_, ?_, ?_, ?_, ?_, ?_⟩
    · exact Decidable.byContradiction fun hforeign => h (.identity hforeign)
    · intro r hr
      obtain ⟨k, u, hu, -, hid, -⟩ := hf.isRouted_of_mem hr
      rw [hid]
      exact hrouted u (List.mem_of_getElem? hu.1) (List.mem_map.mpr ⟨r, hr, hid⟩)
    · intro u hu
      refine ⟨?_, fun username password kind => ⟨fun name hname => ?_, fun word hword => ?_⟩⟩
      · by_cases hmem : u.id ∈ f.uplinks.map (·.uplink)
        · exact (hrouted u hu hmem).isQuotable
        · exact Decidable.byContradiction fun hforeign => h (.unroutedUplink u hu hmem hforeign)
      · obtain rfl := Option.mem_def.mp hname
        exact Decidable.byContradiction fun hforeign =>
          h (.username u hu name password kind hforeign)
      · obtain rfl := Option.mem_def.mp hword
        exact Decidable.byContradiction fun hforeign =>
          h (.password u hu username word kind hforeign)
    · exact fun n hn => Decidable.byContradiction fun hforeign => h (.network n hn hforeign)
    · exact fun password hgiven => Decidable.byContradiction fun hforeign =>
        h (.adminPassword password hgiven hforeign)
    · exact Decidable.byContradiction fun hforeign => h (.heartbeatUrl hforeign)
    · exact Decidable.byContradiction fun hforeign => h (.token hforeign)

/-- A site that is accepted and has a plan compiles exactly if the console can take its script. -/
theorem exists_compile_iff_isWritable {s : Site} {profile : Profile} {options : CompileOptions}
    {p : Plan} (hcheck : s.check profile options.strict = .ok ())
    (hplan : Plan.build s profile options.overflow = .ok p) :
    (∃ out, compile s profile options = .ok out) ↔
      (Blueprint.mk s profile p options.generatedAt).script.IsWritable := by
  refine ⟨fun ⟨out, hout⟩ => ?_, exists_compile_of_isWritable hcheck hplan⟩
  obtain ⟨-, hbuilt, hscript, hwrite⟩ := of_compile_eq_ok hout
  obtain rfl := Except.ok.inj (hplan.symm.trans hbuilt)
  rw [← hscript]
  exact Script.exists_write_iff.mp ⟨out.text, hwrite⟩

/-- **Foreign characters are all that a script is refused for.** A site that is accepted and has a
plan, under a profile whose texts the console takes, compiles unless one of its texts is foreign,
and then the script is refused. -/
theorem compile_refuses_iff {s : Site} {profile : Profile} {options : CompileOptions} {p : Plan}
    (hcheck : s.check profile options.strict = .ok ())
    (hplan : Plan.build s profile options.overflow = .ok p)
    (hprofile : ∀ t ∈ profile.texts, IsPrintable t) :
    ((∃ line, compile s profile options = .error (.script line)) ↔ s.HasForeignText p.failover) ∧
      ((∃ out, compile s profile options = .ok out) ↔ ¬s.HasForeignText p.failover) := by
  have hfindings := Site.check_eq_ok_iff.mp hcheck
  have hs := Site.findings_eq_nil_iff.mp hfindings
  obtain ⟨-, hfailover, hsteering⟩ := Plan.of_build_eq_ok hplan
  have hf := Failover.isFor_of_plan_eq_ok hfailover
  have hok : (∃ out, compile s profile options = .ok out) ↔ ¬s.HasForeignText p.failover := by
    rw [exists_compile_iff_isWritable hcheck hplan, ← Site.takesTexts_iff hf]
    refine Blueprint.isWritable_script (hs.hasPlainNames hplan hprofile) hf fun m hm => ?_
    obtain ⟨n, hn, r, hr, ⟨hnetwork, -⟩, huplink, -⟩ := SteeringPlan.of_mem_marks hsteering hm
    exact ⟨n, hn, r, hr, hnetwork, huplink⟩
  refine ⟨?_, hok⟩
  -- The compilation gets as far as the script, which is refused or written.
  have hrefused : (∃ line, compile s profile options = .error (.script line)) ↔
      ¬∃ out, compile s profile options = .ok out := by
    rcases compile_cases s profile options with ⟨f, rest, hcons, -⟩ | ⟨e, -, herror, -⟩ |
      ⟨q, -, -, ⟨line, hline⟩ | ⟨out, hout⟩⟩
    · rw [hfindings] at hcons
      exact nomatch hcons
    · exact nomatch herror.symm.trans hplan
    · refine iff_of_true ⟨line, hline⟩ fun ⟨out, hout⟩ => ?_
      exact nomatch hline.symm.trans hout
    · refine iff_of_false (fun ⟨line, hline⟩ => ?_) fun hnone => hnone ⟨out, hout⟩
      exact nomatch hline.symm.trans hout
  rw [hrefused, hok, Classical.not_not]

/-- The name of the device stands in a comment, where a tab has no escape. -/
theorem compile_refuses_tab_in_identity :
    let s : Site := { Site.sample with identity := "bran\tch" }
    ∃ line, compile s .builtin .sample = .error (.script line) := by
  intro s
  have herrors : (s.report .builtin "built-in" false .reject).errors = 0 := by decide +kernel
  obtain ⟨hfindings, p, hplan⟩ := Site.errors_eq_zero_iff.mp herrors
  have hcheck : s.check .builtin false = .ok () := Site.check_eq_ok_iff.mpr hfindings
  have hprofile : ∀ t ∈ Profile.builtin.texts, IsPrintable t := by decide
  have hrefuses := @compile_refuses_iff s .builtin .sample p hcheck hplan hprofile
  exact hrefuses.1.mpr (.identity (by decide))

end SiteRouter
