import SiteRouter.Configuration.Blueprint
import SiteRouter.Script.Basic

/-!
# The firewall

The section that names the managing and the local networks in address lists, protects the router
itself, and marks traffic for routing tables. Rules are tried in order and the first that matches
decides, so the bypass for traffic between local networks comes before every mark.
-/

namespace SiteRouter

open Script

/-- Adds an entry to an address list. -/
def addressEntry (list : String) (net : Cidr) : Command :=
  ((Command.add "/ip firewall address-list").arg "list" list).arg "address" net.render

/-- Starts a rule about traffic to the router itself. -/
def inputRule : Command := (Command.add "/ip firewall filter").arg "chain" "input"

/-- Starts a rule about traffic that enters the router, before it is routed. -/
def prerouting : Command := (Command.add "/ip firewall mangle").arg "chain" "prerouting"

/-- Ends a rule with what it does and a comment. -/
def Script.Command.does (c : Command) (action comment : String) : Command :=
  (c.arg "action" action).arg "comment" comment

/-- Marks the traffic of a network for a table, unless it goes to a local network. -/
def Mark.command (localList : String) (m : Mark) : Command :=
  (((((prerouting.arg "in-interface" m.interface).arg "dst-address-list" s!"!{localList}").arg
    "action" "mark-routing").arg "new-routing-mark" m.table).flag "passthrough" false).arg "comment"
    s!"{m.network} via {m.uplink}"

namespace Blueprint

/-- The address lists. -/
def addressListCommands (b : Blueprint) : List Command :=
  b.profile.managementAllowList.map (addressEntry b.profile.managementList) ++
  b.site.networks.map fun n => (addressEntry b.profile.localList n.subnet).arg "comment" n.id

/-- The rules that protect the router: what is known to be good is accepted, the rest is dropped. -/
def inputRules (b : Blueprint) : List Command :=
  [(inputRule.arg "connection-state" "invalid").does "drop" "drop invalid",
    (inputRule.arg "connection-state" "established,related").does "accept" "accept established",
    (inputRule.arg "src-address-list" b.profile.managementList).does "accept"
      "accept management"] ++
  ["udp", "tcp"].map (fun protocol =>
    (((inputRule.arg "protocol" protocol).arg "dst-port" "53").arg "src-address-list"
      b.profile.localList).does "accept" s!"accept dns {protocol}") ++
  [inputRule.does "drop" "default drop"]

/-- The bypass for local traffic, and the marks. -/
def markRules (b : Blueprint) : List Command :=
  let localList := b.profile.localList
  ((prerouting.arg "src-address-list" localList).arg "dst-address-list" localList).does "accept"
    "local bypass" :: b.plan.steering.marks.map (·.command localList)

/-- The section of the firewall. -/
def firewallSection (b : Blueprint) : Section :=
  .ofCommands "firewall" (b.addressListCommands ++ b.inputRules ++ b.markRules)

end Blueprint

end SiteRouter
