import SiteRouter.Address.Cidr
import SiteRouter.Address.Ipv6
import SiteRouter.Keyed

/-!
# Sites

A site is everything that is known about one router before it is configured: its ports, the uplinks
that some of them carry, the networks behind it, how the other ports carry those networks, which
uplink each network should use, and how names are resolved. Whether the parts fit together is the
business of `SiteRouter.Findings`; the types here only give each part its shape.
-/

namespace SiteRouter

/-- A VLAN number as it is written down; not every one of them is usable. -/
abbrev VlanId := Fin 65536

namespace VlanId

/-- The VLAN that a bridge carries untagged when nothing else is configured. -/
def default : VlanId := ⟨1, by decide⟩

/-- The highest usable VLAN. -/
def highest : VlanId := ⟨4094, by decide⟩

end VlanId

/-- How the device is managed from outside. -/
structure Management where
  /-- Bearer token of the heartbeat. -/
  token : String
  /-- Where the heartbeat is sent. -/
  heartbeatUrl : String
  adminPassword : Option String
  deriving DecidableEq

/-- What kind of hardware a port is. -/
inductive Hardware where
  | ether
  | sfp
  | wlan
  deriving DecidableEq, Repr

/-- What a port is meant for when nothing else is said. -/
inductive Role where
  | wan
  | lan
  deriving DecidableEq, Repr

/-- A physical port of the device. -/
structure Port where
  name : String
  hardware : Hardware
  role : Role
  deriving DecidableEq, Repr

/-- How an uplink gets its connection. Addresses and credentials may be missing here. -/
inductive UplinkKind where
  | pppoe (username password : Option String)
  | static (address : Option Cidr) (gateway : Option Ipv4)
  | dhcp
  deriving DecidableEq

namespace UplinkKind

/-- The word for the kind. -/
def word : UplinkKind → String
  | .pppoe .. => "pppoe"
  | .static .. => "static"
  | .dhcp => "dhcp"

/-- Can failover routes be built for the kind? -/
def isRoutable : UplinkKind → Bool
  | .dhcp => false
  | _ => true

/-- Does an uplink of the kind bring up an interface of its own? -/
def isPppoe : UplinkKind → Bool
  | .pppoe .. => true
  | _ => false

end UplinkKind

/-- A connection to the outside over one physical port. -/
structure Uplink where
  id : String
  /-- The port that carries the uplink. -/
  interface : String
  kind : UplinkKind
  deriving DecidableEq

/-- The PPPoE client of the uplink at a position; positions count from one. -/
def pppoeInterface (position : Nat) : String := s!"pppoe-out{position}"

/-- The routing table of the uplink at a position. -/
def routingTable (position : Nat) : String := s!"to-wan{position}"

/-- The interface through which the traffic of the uplink at a position leaves. -/
def Uplink.egress (u : Uplink) (position : Nat) : String :=
  match u.kind with
  | .pppoe .. => pppoeInterface position
  | .static .. | .dhcp => u.interface

/-- A segment behind the router. -/
structure Network where
  id : String
  /-- Also the name of the VLAN interface. -/
  name : String
  vlan : VlanId
  /-- The address of the router in the segment, with the length of the segment's prefix. -/
  cidr : Cidr
  dhcp : Bool
  hotspot : Bool
  deriving DecidableEq

namespace Network

/-- The address of the router in the segment. -/
def router (n : Network) : Ipv4 := n.cidr.address

/-- The segment as a subnet. -/
def subnet (n : Network) : Cidr := n.cidr.subnet

end Network

/-- How a port carries networks. -/
inductive Assignment where
  /-- One network, untagged. -/
  | access (pvid : VlanId)
  /-- One network untagged and others tagged. -/
  | trunk (native : VlanId) (allowed : List VlanId)
  deriving DecidableEq, Repr

/-- The two ways in which a port carries networks. -/
inductive PortMode where
  | access
  | trunk
  deriving DecidableEq, Repr

/-- The word for the way. -/
def PortMode.word : PortMode → String
  | .access => "access"
  | .trunk => "trunk"

namespace Assignment

/-- The way in which the port carries networks. -/
def mode : Assignment → PortMode
  | .access _ => .access
  | .trunk .. => .trunk

/-- The VLAN that the port carries untagged. -/
def pvid : Assignment → VlanId
  | .access pvid => pvid
  | .trunk native _ => native

end Assignment

/-- Which uplink the traffic of each network should leave through. -/
structure Steering where
  enabled : Bool
  /-- From network ids to uplink ids. -/
  mapping : Keyed String
  deriving DecidableEq

/-- How names are resolved. -/
structure Resolver where
  /-- The servers to ask, the preferred one first. -/
  servers : List IpAddress
  /-- Does the router answer the questions of its clients itself? -/
  answersClients : Bool
  deriving DecidableEq

/-- The description of one router. -/
structure Site where
  /-- The name of the device. -/
  identity : String
  management : Management
  ports : List Port
  uplinks : List Uplink
  networks : List Network
  /-- How ports carry networks, by the name of the port. -/
  assignments : Keyed Assignment
  steering : Steering
  resolver : Resolver
  deriving DecidableEq

namespace Site

/-- The port with a name. -/
def port? (s : Site) (name : String) : Option Port := s.ports.find? (·.name == name)

/-- The first network with a VLAN. -/
def networkOnVlan? (s : Site) (vlan : VlanId) : Option Network :=
  s.networks.find? (·.vlan == vlan)

/-- The first network with an id. -/
def network? (s : Site) (id : String) : Option Network := s.networks.find? (·.id == id)

/-- The uplinks with their positions, which count from one. -/
def placedUplinks (s : Site) : List (Nat × Uplink) :=
  s.uplinks.zipIdx.map fun (u, i) => (i + 1, u)

/-- The first uplink with an id, and its position. -/
def uplink? (s : Site) (id : String) : Option (Nat × Uplink) :=
  s.placedUplinks.find? (·.2.id == id)

/-- Does a port of that name carry an uplink? -/
def carriesUplink (s : Site) (port : String) : Bool := s.uplinks.any (·.interface == port)

/-- The ports that carry no uplink. -/
def lanPorts (s : Site) : List Port := s.ports.filter fun p => !s.carriesUplink p.name

/-- The ports that carry no uplink and have no assignment either. -/
def idlePorts (s : Site) : List Port :=
  s.lanPorts.filter fun p => !s.assignments.contains p.name

end Site

end SiteRouter
