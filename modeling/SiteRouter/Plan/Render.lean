import SiteRouter.Plan.Basic
import SiteRouter.Text.Style

/-!
# Plans for people

The three plans as lines of text under headings: the ports and VLANs of the bridge, the routes of
every uplink, and the marks. On a terminal headings are bold and skipped uplinks yellow.
-/

namespace SiteRouter

open Text (styled)

/-- The lines about the bridge. -/
def VlanTable.lines (t : VlanTable) : List String :=
  [s!"bridge={t.bridge}"] ++
  t.ports.map (fun p => s!"- port {p.port} mode={p.mode.word} pvid={p.pvid}") ++
  t.vlans.map fun m =>
    s!"- vlan {m.vlan} network={m.network} tagged=" ++ ",".intercalate m.tagged

/-- The lines about one uplink and its routes. -/
def UplinkRoutes.describe (u : UplinkRoutes) : List String :=
  s!"- {u.uplink} table={u.table} probe={u.probe} gateway={u.gateway.render}" ::
  u.routes.map fun r => "  " ++ r.describe

/-- The lines about the uplinks. -/
def Failover.lines (f : Failover) (color : Bool) : List String :=
  (if f.uplinks.isEmpty then ["- none"] else []) ++
  f.uplinks.flatMap UplinkRoutes.describe ++
  f.skipped.map fun id => styled .yellow color s!"- {id} skipped"

/-- The line about a mark. -/
def Mark.describe (m : Mark) : String :=
  let source := if m.explicit then "mapped" else "default"
  s!"- {m.network} in={m.interface} -> {m.table} ({m.uplink}, {source})"

/-- The lines about the marks. -/
def SteeringPlan.lines (p : SteeringPlan) : List String :=
  (if p.active then [] else ["- inactive"]) ++ p.marks.map Mark.describe

/-- The whole plan as text. -/
def Plan.render (p : Plan) (color : Bool) : String :=
  let heading := styled .bold color
  "\n".intercalate <|
    heading "vlans" :: p.vlans.lines ++
    heading "failover" :: p.failover.lines color ++
    heading "policy" :: p.steering.lines

end SiteRouter
