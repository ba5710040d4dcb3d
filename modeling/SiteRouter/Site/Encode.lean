import SiteRouter.Document.Value
import SiteRouter.Site.Basic

/-!
# Sites as documents

The document value of a site, with every field written out: the fields of a variant stand beside
its tag, what is absent is null, and addresses are texts. Decoding it gives the site back.
-/

namespace SiteRouter

open Document (Value)

/-- A text that may be absent. -/
def textOrNull : Option String → Value
  | some s => .text s
  | none => .null

/-- How the device is managed. -/
def Management.toValue (m : Management) : Value :=
  .table [("token", .text m.token), ("heartbeat_url", .text m.heartbeatUrl),
    ("admin_password", textOrNull m.adminPassword)]

/-- The word for a kind of hardware. -/
def Hardware.word : Hardware → String
  | .ether => "ether"
  | .sfp => "sfp"
  | .wlan => "wlan"

/-- The word for the role of a port. -/
def Role.word : Role → String
  | .wan => "wan"
  | .lan => "lan"

/-- A port. -/
def Port.toValue (p : Port) : Value :=
  .table [("name", .text p.name), ("hardware_type", .text p.hardware.word),
    ("default_role", .text p.role.word)]

/-- The tag of a kind of uplink and the fields beside it. -/
def UplinkKind.toEntries (k : UplinkKind) : List (String × Value) :=
  ("kind", .text k.word) :: match k with
    | .pppoe username password =>
      [("username", textOrNull username), ("password", textOrNull password)]
    | .static address gateway =>
      [("address", textOrNull (address.map Cidr.render)),
        ("gateway", textOrNull (gateway.map Ipv4.render))]
    | .dhcp => []

/-- An uplink. -/
def Uplink.toValue (u : Uplink) : Value :=
  .table (("id", .text u.id) :: ("interface", .text u.interface) :: u.kind.toEntries)

/-- A network. -/
def Network.toValue (n : Network) : Value :=
  .table [("id", .text n.id), ("name", .text n.name), ("vlan_id", .natural n.vlan.val),
    ("cidr", .text n.cidr.render), ("dhcp", .bool n.dhcp), ("hotspot", .bool n.hotspot)]

/-- How a port carries networks. -/
def Assignment.toValue : Assignment → Value
  | .access pvid => .table [("mode", .text "access"), ("pvid", .natural pvid.val)]
  | .trunk native allowed =>
    .table [("mode", .text "trunk"), ("native_vlan", .natural native.val),
      ("allowed_vlans", .list (allowed.map fun v => .natural v.val))]

/-- Which uplink each network should use. -/
def Steering.toValue (s : Steering) : Value :=
  .table [("enabled", .bool s.enabled),
    ("mapping", .table (s.mapping.entries.map fun (network, uplink) => (network, .text uplink)))]

/-- How names are resolved. -/
def Resolver.toValue (r : Resolver) : Value :=
  .table [("servers", .list (r.servers.map fun a => .text a.render)),
    ("allow_remote_requests", .bool r.answersClients)]

/-- A whole site. -/
def Site.toValue (s : Site) : Value :=
  .table [
    ("identity", .text s.identity),
    ("management", s.management.toValue),
    ("ports", .list (s.ports.map Port.toValue)),
    ("uplinks", .list (s.uplinks.map Uplink.toValue)),
    ("networks", .list (s.networks.map Network.toValue)),
    ("assignments", .table (s.assignments.entries.map fun (port, a) => (port, a.toValue))),
    ("policy_routing", s.steering.toValue),
    ("dns", s.resolver.toValue)]

end SiteRouter
