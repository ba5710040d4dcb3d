import SiteRouter.Site.Basic

/-!
# Findings about a site

What can be wrong with the structure of a site, each with the parts it concerns. A finding has a
code that programs can match on and a message for people.
-/

namespace SiteRouter

/-- One thing that is wrong with a site. -/
inductive Finding where
  | emptyField (entity field : String)
  | invalidName (entity name : String)
  | duplicatePort (name : String)
  | duplicateUplinkId (id : String)
  | unknownUplinkPort (uplink port : String)
  | duplicateUplinkInterface (interface first second : String)
  | uplinkInterfaceCollision (port uplink : String)
  | unknownAssignedPort (port : String)
  | duplicateNetworkId (id : String)
  | duplicateNetworkName (name : String)
  | duplicateVlanId (vlan : VlanId) (first second : String)
  | invalidVlanId (network : String) (vlan : VlanId)
  | reservedVlan (network : String)
  | hotspotWithoutDhcp (network : String)
  | subnetTooSmall (network : String) (cidr : Cidr)
  | routerAddressNotHost (network : String) (cidr : Cidr)
  | interfaceNameClash (network name owner : String)
  | overlappingNetworks (first second : String)
  | unknownAccessVlan (port : String) (pvid : VlanId)
  | unknownTrunkVlan (port : String) (vlan : VlanId)
  | unknownPolicyNetwork (network : String)
  | unknownPolicyUplink (network uplink : String)
  | unmappedPolicyNetwork (network : String)
  | emptyDnsServers
  deriving DecidableEq

namespace Finding

/-- The stable name of the kind of finding. -/
def code : Finding → String
  | emptyField .. => "empty_field"
  | invalidName .. => "invalid_name"
  | duplicatePort .. => "duplicate_port"
  | duplicateUplinkId .. => "duplicate_uplink_id"
  | unknownUplinkPort .. => "unknown_uplink_port"
  | duplicateUplinkInterface .. => "duplicate_uplink_interface"
  | uplinkInterfaceCollision .. => "uplink_interface_collision"
  | unknownAssignedPort .. => "unknown_assigned_port"
  | duplicateNetworkId .. => "duplicate_network_id"
  | duplicateNetworkName .. => "duplicate_network_name"
  | duplicateVlanId .. => "duplicate_vlan_id"
  | invalidVlanId .. => "invalid_vlan_id"
  | reservedVlan .. => "reserved_vlan"
  | hotspotWithoutDhcp .. => "hotspot_without_dhcp"
  | subnetTooSmall .. => "subnet_too_small"
  | routerAddressNotHost .. => "router_address_not_host"
  | interfaceNameClash .. => "interface_name_clash"
  | overlappingNetworks .. => "overlapping_networks"
  | unknownAccessVlan .. => "unknown_access_vlan"
  | unknownTrunkVlan .. => "unknown_trunk_vlan"
  | unknownPolicyNetwork .. => "unknown_policy_network"
  | unknownPolicyUplink .. => "unknown_policy_uplink"
  | unmappedPolicyNetwork .. => "unmapped_policy_network"
  | emptyDnsServers => "empty_dns_servers"

/-- What is wrong, in a sentence. -/
def message : Finding → String
  | emptyField entity field => s!"{entity}: field '{field}' must not be empty"
  | invalidName entity name => s!"{entity} '{name}' is not a valid interface name"
  | duplicatePort name => s!"duplicate port '{name}' in port catalog"
  | duplicateUplinkId id => s!"duplicate uplink id '{id}'"
  | unknownUplinkPort uplink port => s!"uplink '{uplink}' references unknown port '{port}'"
  | duplicateUplinkInterface interface first second =>
    s!"uplinks '{first}' and '{second}' share physical interface '{interface}'"
  | uplinkInterfaceCollision port uplink =>
    s!"port '{port}' carries uplink '{uplink}' and cannot also be assigned as a LAN port"
  | unknownAssignedPort port => s!"assignment references unknown port '{port}'"
  | duplicateNetworkId id => s!"duplicate network id '{id}'"
  | duplicateNetworkName name => s!"duplicate network name '{name}'"
  | duplicateVlanId vlan first second => s!"networks '{first}' and '{second}' both use VLAN {vlan}"
  | invalidVlanId network vlan => s!"network '{network}': VLAN id {vlan} is outside 1..=4094"
  | reservedVlan network =>
    s!"network '{network}': VLAN 1 is the bridge's implicit default and cannot be assigned"
  | hotspotWithoutDhcp network => s!"network '{network}': hotspot requires DHCP to be enabled"
  | subnetTooSmall network cidr =>
    s!"network '{network}': subnet {cidr} leaves no room for a DHCP pool"
  | routerAddressNotHost network cidr =>
    s!"network '{network}': router address in {cidr} is not a host address"
  | interfaceNameClash network name owner =>
    s!"network '{network}': interface name '{name}' is already used by the {owner}"
  | overlappingNetworks first second =>
    s!"networks '{first}' and '{second}' have overlapping subnets"
  | unknownAccessVlan port pvid =>
    s!"access port '{port}' uses pvid {pvid}, which no network defines"
  | unknownTrunkVlan port vlan =>
    s!"trunk port '{port}' allows VLAN {vlan}, which no network defines"
  | unknownPolicyNetwork network => s!"policy routing maps unknown network '{network}'"
  | unknownPolicyUplink network uplink =>
    s!"policy routing maps network '{network}' to unknown uplink '{uplink}'"
  | unmappedPolicyNetwork network =>
    s!"policy routing has no uplink mapping for network '{network}'"
  | emptyDnsServers => "DNS policy must list at least one upstream server"

end Finding

end SiteRouter
