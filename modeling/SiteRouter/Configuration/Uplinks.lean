import SiteRouter.Configuration.Blueprint
import SiteRouter.Script.Basic

/-!
# The uplinks

The section that brings every uplink up and makes its interface a member of the uplink list, and
then creates the table and the routes of every uplink that is routed.
-/

namespace SiteRouter

open Script

/-- Brings up the uplink at a position, without any route of its own. -/
def Uplink.bringUp (u : Uplink) (position : Nat) : Command :=
  let quiet := fun (c : Command) =>
    ((c.flag "add-default-route" false).flag "use-peer-dns" false).flag "disabled" false
  let command := match u.kind with
    | .static address _ =>
      ((Command.add "/ip address").argIfSome "address" (address.map Cidr.render)).arg "interface"
        u.interface
    | .pppoe username password =>
      quiet <|
        ((((Command.add "/interface pppoe-client").arg "name" (u.egress position)).arg "interface"
          u.interface).argIfSome "user" username).argIfSome "password" password
    | .dhcp => quiet <| (Command.add "/ip dhcp-client").arg "interface" u.interface
  command.arg "comment" u.id

/-- Creates a route. -/
def Route.command (r : Route) : Command :=
  let number := fun (n : Option Nat) => n.map fun n => toString n
  let chosen := (((((((Command.add "/ip route").arg "dst-address" r.destination.render).arg
    "gateway" r.gateway.render).argIfSome "routing-table" r.table).argIfSome "distance"
    (number r.distance)).argIfSome "scope" (number r.scope)).argIfSome "target-scope"
    (number r.targetScope))
  (if r.checkGateway then chosen.arg "check-gateway" "ping" else chosen).arg "comment" r.comment

/-- Creates the table of a routed uplink and its routes, under a comment. -/
def UplinkRoutes.lines (u : UplinkRoutes) : List Line :=
  .comment s!"{u.table} via {u.uplink}" ::
  .command (((Command.add "/routing table").arg "name" u.table).keyword "fib") ::
  u.routes.map fun r => .command r.command

/-- Makes the interface of the uplink at a position a member of the uplink list. -/
def Uplink.memberCommand (list : String) (u : Uplink) (position : Nat) : Command :=
  ((Command.add "/interface list member").arg "list" list).arg "interface" (u.egress position)

/-- The section of the uplinks. -/
def Blueprint.uplinkSection (b : Blueprint) : Section :=
  let list := b.profile.wanList
  ⟨"uplinks",
    [.command ((Command.add "/interface list").arg "name" list)] ++
    b.site.placedUplinks.flatMap (fun (i, u) =>
      [.command (u.bringUp i), .command (u.memberCommand list i)]) ++
    b.plan.failover.uplinks.flatMap UplinkRoutes.lines⟩

end SiteRouter
