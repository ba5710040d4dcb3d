import SiteRouter.Configuration.Blueprint
import SiteRouter.Script.Basic

/-!
# The bridge

The section that creates the bridge, joins the assigned ports to it, creates one VLAN interface per
network, and says who carries each VLAN tagged.
-/

namespace SiteRouter

open Script

/-- The frames that a port of the bridge takes: an access port untagged ones only, a trunk whose
native VLAN is the default tagged ones only, any other trunk both. -/
def BridgePort.frameTypes (p : BridgePort) : String :=
  match p.mode with
  | .access => "admit-only-untagged-and-priority-tagged"
  | .trunk => if p.pvid = VlanId.default then "admit-only-vlan-tagged" else "admit-all"

/-- Joins a port to the bridge. -/
def BridgePort.command (bridge : String) (p : BridgePort) : Command :=
  ((((Command.add "/interface bridge port").arg "bridge" bridge).arg "interface" p.port).arg "pvid"
    (toString p.pvid)).arg "frame-types" p.frameTypes

/-- Creates the VLAN interface of a network. -/
def Network.vlanCommand (bridge : String) (n : Network) : Command :=
  (((Command.add "/interface vlan").arg "name" n.name).arg "interface" bridge).arg "vlan-id"
    (toString n.vlan)

/-- Says who carries a VLAN tagged. -/
def Membership.command (bridge : String) (m : Membership) : Command :=
  (((Command.add "/interface bridge vlan").arg "bridge" bridge).arg "vlan-ids"
    (toString m.vlan)).list "tagged" m.tagged

/-- The section of the bridge. -/
def Blueprint.bridgeSection (b : Blueprint) : Section :=
  let table := b.plan.vlans
  .ofCommands "bridge" <|
    [((Command.add "/interface bridge").arg "name" table.bridge).flag "vlan-filtering" true] ++
    table.ports.map (·.command table.bridge) ++
    b.site.networks.map (·.vlanCommand table.bridge) ++
    table.vlans.map (·.command table.bridge)

end SiteRouter
