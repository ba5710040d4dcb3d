import SiteRouter.Configuration.Blueprint
import SiteRouter.Script.Basic
import SiteRouter.Site.Pool

/-!
# The networks

The section that gives the router its address in every network and sets up the services of the
network: a pool and a DHCP server where it has DHCP, and a hotspot on the same pool where it has
one. Clients are told to ask the router for names, or those of its own servers that they can reach
over IPv4.
-/

namespace SiteRouter

open Script

namespace Resolver

/-- The servers with IPv4 addresses. -/
def ipv4Servers (r : Resolver) : List Ipv4 := r.servers.filterMap IpAddress.v4?

/-- The servers that clients are told to ask, in a network where the router has that address. -/
def handedOut (r : Resolver) (router : Ipv4) : List Ipv4 :=
  if r.answersClients || r.ipv4Servers.isEmpty then [router] else r.ipv4Servers

/-- What there is to tell about the servers: those with IPv6 addresses cannot be handed out. -/
def notes (r : Resolver) : List Note :=
  let others := r.servers.length - r.ipv4Servers.length
  if r.answersClients || others = 0 then []
  else [.warn s!"{others} IPv6 DNS server(s) cannot be handed out over DHCPv4"]

end Resolver

namespace Network

/-- The address of the router in the network. -/
def addressCommand (n : Network) : Command :=
  (((Command.add "/ip address").arg "address" n.cidr.render).arg "interface" n.name).arg "comment"
    n.id

/-- The pool of the network, its DHCP server, and what the server tells its clients. -/
def dhcpCommands (n : Network) (leaseTime : String) (dns : List Ipv4) : List Command :=
  [((Command.add "/ip pool").arg "name" n.poolName).list "ranges"
      (n.poolRanges.map AddressRange.render),
    (((((Command.add "/ip dhcp-server").arg "name" s!"dhcp-{n.name}").arg "interface" n.name).arg
      "address-pool" n.poolName).arg "lease-time" leaseTime).flag "disabled" false,
    (((Command.add "/ip dhcp-server network").arg "address" n.subnet.render).arg "gateway"
      n.router.render).list "dns-server" (dns.map Ipv4.render)]

/-- The name of the hotspot profile of the network. -/
def hotspotProfile (n : Network) : String := s!"hsprof-{n.name}"

/-- The hotspot of the network and its profile. -/
def hotspotCommands (n : Network) (loginBy : List String) : List Command :=
  [(((Command.add "/ip hotspot profile").arg "name" n.hotspotProfile).arg "hotspot-address"
      n.router.render).list "login-by" loginBy,
    (((((Command.add "/ip hotspot").arg "name" s!"hotspot-{n.name}").arg "interface" n.name).arg
      "address-pool" n.poolName).arg "profile" n.hotspotProfile).flag "disabled" false]

/-- All commands for the network. There is no hotspot without DHCP. -/
def commands (n : Network) (profile : Profile) (resolver : Resolver) : List Command :=
  n.addressCommand ::
  if n.dhcp then
    -- The hotspot draws on the pool of the DHCP server, so it comes after it.
    n.dhcpCommands profile.leaseTime (resolver.handedOut n.router) ++
    if n.hotspot then n.hotspotCommands profile.hotspotLoginBy else []
  else []

end Network

/-- The section of the networks. -/
def Blueprint.networkSection (b : Blueprint) : Section :=
  .ofCommands "networks" (b.site.networks.flatMap (·.commands b.profile b.site.resolver))

end SiteRouter
