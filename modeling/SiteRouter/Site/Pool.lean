import SiteRouter.Address.Range
import SiteRouter.Site.Basic

/-!
# Address pools

The addresses that a network hands out: every host of its subnet except the router.
-/

namespace SiteRouter.Network

/-- The ranges of addresses that the network can hand out. -/
def poolRanges (n : Network) : List AddressRange :=
  match n.subnet.hosts? with
  | some hosts => hosts.without n.router
  | none => []

/-- The name of the pool of a network. -/
def plainPoolName (n : Network) : String := s!"pool-{n.name}"

/-- The name of the pool of a network with a hotspot. -/
def hotspotPoolName (n : Network) : String := s!"hs-pool-{n.name}"

/-- The name of the network's pool. -/
def poolName (n : Network) : String := if n.hotspot then n.hotspotPoolName else n.plainPoolName

end SiteRouter.Network
