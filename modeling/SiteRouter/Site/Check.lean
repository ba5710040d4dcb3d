import SiteRouter.Profile
import SiteRouter.Site.Finding
import SiteRouter.Text.Blank

/-!
# Checking a site

`Site.findings` lists everything that is wrong with the structure of a site, part by part in the
order in which the parts are described. A site without findings is ready to be planned.
-/

namespace SiteRouter

/-- Is the text fit to be the name of an interface: a letter, then letters, digits and `-_.`, at
most 64 characters in all? -/
def isInterfaceName (name : String) : Bool :=
  match name.toList with
  | [] => false
  | c :: r =>
    name.utf8ByteSize ≤ 64 && c.isAlpha &&
      r.all fun c => c.isAlphanum || ['-', '_', '.'].contains c

/-- Collects findings along a list, where the findings about an item may depend on the items before
it. -/
def findingsAlong {α : Type} (check : List α → α → List Finding) (earlier : List α) :
    List α → List Finding
  | [] => []
  | x :: xs => check earlier x ++ findingsAlong check (earlier ++ [x]) xs

/-- A finding that is made under a condition. -/
def findingIf (p : Bool) (finding : Finding) : List Finding := if p then [finding] else []

namespace Site

/-- The device has a name, and what the heartbeat needs is there. -/
def requiredFieldFindings (s : Site) : List Finding :=
  findingIf (Text.isBlankText s.identity) (.emptyField "topology" "identity") ++
  findingIf (Text.isBlankText s.management.token) (.emptyField "management" "token") ++
  findingIf (Text.isBlankText s.management.heartbeatUrl) (.emptyField "management" "heartbeat_url")

/-- Ports have proper names, each its own. -/
def portFindings (s : Site) : List Finding :=
  findingsAlong (fun earlier p =>
    findingIf (!isInterfaceName p.name) (.invalidName "port" p.name) ++
    findingIf (earlier.any (·.name == p.name)) (.duplicatePort p.name)) [] s.ports

/-- Uplinks have ids of their own and ports of their own, and none of those is assigned. -/
def uplinkFindings (s : Site) : List Finding :=
  findingsAlong (fun earlier u =>
    findingIf (Text.isBlankText u.id) (.emptyField "uplink" "id") ++
    findingIf (earlier.any (·.id == u.id)) (.duplicateUplinkId u.id) ++
    findingIf (s.port? u.interface).isNone (.unknownUplinkPort u.id u.interface) ++
    (match earlier.find? (·.interface == u.interface) with
      | some first => [.duplicateUplinkInterface u.interface first.id u.id]
      | none => []) ++
    findingIf (s.assignments.contains u.interface) (.uplinkInterfaceCollision u.interface u.id))
    [] s.uplinks

/-- The VLAN of a network is usable and its own. -/
def vlanFindings (earlier : List Network) (n : Network) : List Finding :=
  if n.vlan.val = 0 ∨ VlanId.highest < n.vlan then [.invalidVlanId n.name n.vlan]
  else if n.vlan = VlanId.default then [.reservedVlan n.name]
  else
    -- The first network with the VLAN is the one that is named.
    match earlier.find? (·.vlan == n.vlan) with
    | some first => [.duplicateVlanId n.vlan first.name n.name]
    | none => []

/-- Is the address of the router one of the two ends of a subnet that has hosts? -/
def routerAtEnd (n : Network) : Bool :=
  n.cidr.length ≤ 30 && (n.router == n.cidr.first || n.router == n.cidr.last)

/-- Networks have ids, names and VLANs of their own, and their services fit their subnets. -/
def networkFindings (s : Site) : List Finding :=
  findingsAlong (fun earlier n =>
    findingIf (earlier.any (·.id == n.id)) (.duplicateNetworkId n.id) ++
    findingIf (!isInterfaceName n.name) (.invalidName "network" n.name) ++
    findingIf (earlier.any (·.name == n.name)) (.duplicateNetworkName n.name) ++
    vlanFindings earlier n ++
    findingIf (n.hotspot && !n.dhcp) (.hotspotWithoutDhcp n.name) ++
    findingIf (n.dhcp && decide (30 < n.cidr.length)) (.subnetTooSmall n.name n.cidr) ++
    findingIf (routerAtEnd n) (.routerAddressNotHost n.name n.cidr)) [] s.networks

/-- Does one of the subnets hold the first address of the other? -/
def overlap (a b : Cidr) : Bool := a.contains b.first || b.contains a.first

/-- No two networks overlap. -/
def overlapFindings : List Network → List Finding
  | [] => []
  | a :: rest =>
    (rest.filter fun b => overlap a.subnet b.subnet).map
      (fun b => .overlappingNetworks a.name b.name) ++ overlapFindings rest

/-- What an interface name already belongs to: the bridge, a port, or the client of a PPPoE
uplink. -/
def interfaceOwner? (s : Site) (bridge name : String) : Option String :=
  if name = bridge then some "bridge"
  else if s.ports.any (·.name == name) then some "port"
  else
    (s.placedUplinks.find? fun (i, u) => u.kind.isPppoe && pppoeInterface i == name).map
      fun (_, u) => s!"pppoe client of uplink '{u.id}'"

/-- No network is named like an interface that exists already. -/
def clashFindings (s : Site) (bridge : String) : List Finding :=
  s.networks.filterMap fun n =>
    (s.interfaceOwner? bridge n.name).map fun owner => .interfaceNameClash n.id n.name owner

/-- Is there a network with the VLAN? -/
def hasVlan (s : Site) (vlan : VlanId) : Bool := (s.networkOnVlan? vlan).isSome

/-- Assignments are made to ports and name VLANs of networks. The native VLAN of a trunk is left to
the planner. -/
def assignmentFindings (s : Site) : List Finding :=
  s.assignments.entries.flatMap fun (port, a) =>
    findingIf (s.port? port).isNone (.unknownAssignedPort port) ++
    match a with
    | .access pvid => findingIf (!s.hasVlan pvid) (.unknownAccessVlan port pvid)
    | .trunk native allowed =>
      (allowed.filter fun v => v != native && !s.hasVlan v).map (.unknownTrunkVlan port)

/-- How many uplinks failover routes can be built for. -/
def routableCount (s : Site) : Nat := s.uplinks.countP (·.kind.isRoutable)

/-- Steering names networks and uplinks that exist; in strict mode it names every network, as soon
as there is a choice of uplinks. -/
def steeringFindings (s : Site) (strict : Bool) : List Finding :=
  (s.steering.mapping.entries.flatMap fun (network, uplink) =>
    findingIf (s.network? network).isNone (.unknownPolicyNetwork network) ++
    findingIf (s.uplink? uplink).isNone (.unknownPolicyUplink network uplink)) ++
  if strict && s.steering.enabled && decide (2 ≤ s.routableCount) then
    (s.networks.filter fun n => !s.steering.mapping.contains n.id).map
      fun n => .unmappedPolicyNetwork n.id
  else []

/-- Everything that is wrong with the site, in the order of the checks. -/
def findings (s : Site) (profile : Profile) (strict : Bool) : List Finding :=
  s.requiredFieldFindings ++
  s.portFindings ++
  s.uplinkFindings ++
  s.networkFindings ++
  overlapFindings s.networks ++
  s.clashFindings profile.bridgeName ++
  s.assignmentFindings ++
  s.steeringFindings strict ++
  findingIf s.resolver.servers.isEmpty .emptyDnsServers

/-- Refuses the site with the first finding, if there is one. -/
def check (s : Site) (profile : Profile) (strict : Bool) : Except Finding Unit :=
  match s.findings profile strict with
  | [] => .ok ()
  | f :: _ => .error f

end Site

end SiteRouter
