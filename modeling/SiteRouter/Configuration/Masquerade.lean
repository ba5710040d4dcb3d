import SiteRouter.Configuration.Blueprint
import SiteRouter.Script.Basic

/-!
# Masquerading

The section that hides everything that leaves through an uplink behind the router's address there,
and the traffic of every network with a hotspot wherever it goes.
-/

namespace SiteRouter

open Script

/-- Starts a rule about the source addresses of traffic. -/
def sourceRule : Command := (Command.add "/ip firewall nat").arg "chain" "srcnat"

/-- Ends a rule by hiding the source address. -/
def Script.Command.masquerades (c : Command) (comment : String) : Command :=
  (c.arg "action" "masquerade").arg "comment" comment

/-- The section of masquerading: first what leaves through an uplink, then what hotspots serve. -/
def Blueprint.masqueradeSection (b : Blueprint) : Section :=
  .ofCommands "nat" <|
    (sourceRule.arg "out-interface-list" b.profile.wanList).masquerades "masquerade wan" ::
    (b.site.networks.filter (·.hotspot)).map fun n =>
      (sourceRule.arg "src-address" n.subnet.render).masquerades s!"hotspot {n.id}"

end SiteRouter
