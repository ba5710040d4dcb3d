import SiteRouter.Plan.Failover

/-!
# Steering networks to uplinks

Traffic that enters from a network is marked for the routing table of one uplink. Marks are made
only when steering is enabled and there is a choice, that is when two uplinks at least are routed.
A network without a mapping goes to the first routed uplink.
-/

namespace SiteRouter

/-- The mark on the traffic of a network. -/
structure Mark where
  network : String
  /-- The interface through which the traffic enters. -/
  interface : String
  uplink : String
  table : String
  /-- Was the uplink chosen by a mapping? -/
  explicit : Bool
  deriving DecidableEq

/-- The marks of all networks. -/
structure SteeringPlan where
  active : Bool
  marks : List Mark
  deriving DecidableEq

namespace SteeringPlan

/-- No traffic is marked. -/
def inactive : SteeringPlan := ⟨false, []⟩

/-- The mark on the traffic of a network, when the traffic of networks without a mapping goes to
`fallback`. -/
def markOf (s : Site) (f : Failover) (fallback : UplinkRoutes) (n : Network) :
    Except PlanError Mark :=
  match s.steering.mapping.get? n.id with
  | some uplink =>
    match f.table? uplink with
    | some table => .ok ⟨n.id, n.name, uplink, table, true⟩
    | none => .error (.policyTargetUnrouted n.id uplink)
  | none => .ok ⟨n.id, n.name, fallback.uplink, fallback.table, false⟩

/-- The marks of a site's networks, or the first network that is mapped to an uplink without
routes. -/
def plan (s : Site) (f : Failover) : Except PlanError SteeringPlan :=
  match s.steering.enabled, f.uplinks with
  | true, fallback :: _ :: _ =>
    (s.networks.mapM (markOf s f fallback)).map fun marks => ⟨true, marks⟩
  | _, _ => .ok inactive

/-- The marks up to the first network for which there is none. -/
def marksUntilError (s : Site) (f : Failover) (fallback : UplinkRoutes) : List Network → List Mark
  | [] => []
  | n :: rest =>
    match markOf s f fallback n with
    | .ok mark => mark :: marksUntilError s f fallback rest
    | .error _ => []

/-- What there is to tell about the planning. -/
def notes (s : Site) (f : Failover) : List Note :=
  match s.steering.enabled, f.uplinks with
  | false, _ => []
  | true, fallback :: _ :: _ =>
    (marksUntilError s f fallback s.networks).map fun m =>
      Note.debug s!"network {m.network} -> {m.table} via {m.uplink}"
  | true, few =>
    [Note.debug
      s!"policy routing enabled but only {few.length} routed uplink(s); no marks emitted"]

end SteeringPlan

open Document (Value)

/-- The document value of a mark. -/
def Mark.toValue (m : Mark) : Value :=
  .table [("network", .text m.network), ("interface", .text m.interface),
    ("uplink", .text m.uplink), ("table", .text m.table), ("explicit", .bool m.explicit)]

/-- The document value of the marks. -/
def SteeringPlan.toValue (p : SteeringPlan) : Value :=
  .table [("active", .bool p.active), ("marks", .list (p.marks.map Mark.toValue))]

end SiteRouter
