import SiteRouter.Plan.Steering
import SiteRouter.Plan.VlanTable

/-!
# Plans

A plan is what a site comes to before it is written as commands: the VLAN table of the bridge, the
routes of the uplinks, and the marks on the traffic of the networks. `Plan.build` makes the three in
that order and stops at the first that cannot be made.
-/

namespace SiteRouter

/-- The three plans of a site. -/
structure Plan where
  vlans : VlanTable
  failover : Failover
  steering : SteeringPlan
  deriving DecidableEq

namespace Plan

/-- The plan of a site, or the reason why there is none. -/
def build (s : Site) (profile : Profile) (overflow : Overflow) : Except PlanError Plan := do
  let vlans ← VlanTable.plan s profile.bridgeName
  let failover ← Failover.plan s.uplinks profile.probes overflow
  let steering ← SteeringPlan.plan s failover
  return { vlans, failover, steering }

/-- What there is to tell about the planning. -/
def notes (s : Site) (profile : Profile) (overflow : Overflow) : List Note :=
  VlanTable.notes s ++
  match VlanTable.plan s profile.bridgeName with
  | .error _ => []
  | .ok vlans =>
    Failover.notes s.uplinks profile.probes overflow ++
    match Failover.plan s.uplinks profile.probes overflow with
    | .error _ => []
    | .ok failover =>
      SteeringPlan.notes s failover ++
      match SteeringPlan.plan s failover with
      | .error _ => []
      | .ok steering =>
        [Note.debug (s!"planned {vlans.ports.length} bridge port(s), " ++
          s!"{failover.uplinks.length} routed uplink(s), {steering.marks.length} routing mark(s)")]

/-- The document value of a plan. -/
def toValue (p : Plan) : Document.Value :=
  .table [("vlans", p.vlans.toValue), ("failover", p.failover.toValue),
    ("policy", p.steering.toValue)]

end Plan

end SiteRouter
