import SiteRouter.Note
import SiteRouter.Plan.Error
import SiteRouter.Plan.Route
import SiteRouter.Text.Blank

/-!
# Failover between uplinks

Every routed uplink has a host that is probed through it, a routing table of its own, and routes on
the recursive pattern: a host route pins the probe to the gateway of the uplink, and default routes
point at the probe. When the probe stops answering, those defaults are withdrawn and the route with
the next distance takes over.

The uplink at position `i` has table `to-wan{i}` and the `i`-th probe. Its default in the main
table has distance `i`; in the table of another uplink the backup through it has distance `i + 2`.

The uplinks are looked at one after the other (`Survey.pass`). Each one that is not routed is noted
twice: its id is listed in the plan, and there is a warning.
-/

namespace SiteRouter

/-- What to do with more uplinks than there are probes. -/
inductive Overflow where
  /-- Make no plan. -/
  | reject
  /-- Leave the uplinks without a probe unrouted. -/
  | truncate
  deriving DecidableEq, Repr

/-- The scope of host routes, so that other routes can be resolved through them. -/
def hostScope : Nat := 10

/-- The target scope of routes that are resolved through a host route. -/
def recursiveScope : Nat := 11

/-- An uplink that can be routed: its position, its probe and its gateway. -/
structure Hop where
  position : Nat
  uplink : Uplink
  probe : Ipv4
  gateway : Gateway
  deriving DecidableEq

/-- The routes of one uplink. -/
structure UplinkRoutes where
  position : Nat
  uplink : String
  table : String
  probe : Ipv4
  gateway : Gateway
  hostRoute : Route
  tableDefault : Route
  mainDefault : Route
  backups : List Route
  deriving DecidableEq

/-- All routes of the uplink, in the order in which they are made. -/
def UplinkRoutes.routes (u : UplinkRoutes) : List Route :=
  u.hostRoute :: u.tableDefault :: u.mainDefault :: u.backups

/-- The plan of all uplinks. -/
structure Failover where
  uplinks : List UplinkRoutes
  /-- The ids of the uplinks that have no routes. -/
  skipped : List String
  deriving DecidableEq

/-- What an uplink lacks to be routed. A DHCP uplink lacks nothing, since it is not routed. -/
def Uplink.error? (u : Uplink) : Option PlanError :=
  match u.kind with
  | .static none _ => some (.missingAddress u.id)
  | .static (some _) none => some (.missingGateway u.id)
  | .static (some _) (some _) => none
  | .pppoe username _ =>
    if username.all Text.isBlankText then some (.missingUsername u.id) else none
  | .dhcp => none

/-- The next hop of the uplink at a position, if it is routed. -/
def Uplink.gateway? (u : Uplink) (position : Nat) : Option Gateway :=
  match u.kind with
  | .static _ gateway => gateway.map .address
  | .pppoe .. => some (.interface (pppoeInterface position))
  | .dhcp => none

/-- What is known after a look at some of the uplinks. -/
structure Survey where
  /-- The uplinks that are routed. -/
  hops : List Hop
  /-- The ids of the others. -/
  skipped : List String
  notes : List Note

namespace Survey

/-- The survey with an uplink that is not routed, and a warning that says why. -/
def skip (s : Survey) (u : Uplink) (text : String) : Survey :=
  { s with skipped := s.skipped ++ [u.id], notes := s.notes ++ [.warn text] }

/-- The survey after a look at uplinks with their probes and positions, up to one that cannot be
planned. -/
def pass (s : Survey) : List ((Uplink × Ipv4) × Nat) → Survey × Option PlanError
  | [] => (s, none)
  | ((u, probe), i) :: rest =>
    match u.error? with
    | some e => (s, some e)
    | none =>
      match u.gateway? i with
      | some gateway => pass { s with hops := s.hops ++ [⟨i, u, probe, gateway⟩] } rest
      | none =>
        let text :=
          s!"uplink {u.id} uses unsupported kind {u.kind.word}; skipped for failover routing"
        pass (s.skip u text) rest

end Survey

namespace Failover

/-- The uplinks that have a probe, each with its probe and its position. -/
def placed (uplinks : List Uplink) (probes : List Ipv4) : List ((Uplink × Ipv4) × Nat) :=
  (uplinks.zip probes).zipIdx 1

/-- The default routes that stand in for an uplink in its own table, one through every other. -/
def backupsOf (hops : List Hop) (h : Hop) : List Route :=
  let table := routingTable h.position
  (hops.filter (·.position != h.position)).map fun other =>
    { Route.plain .everything other.gateway s!"{table} backup via {other.uplink.id}" with
      table := some table
      distance := some (other.position + 2) }

/-- The routes of one of the hops. -/
def routesOf (hops : List Hop) (h : Hop) : UplinkRoutes :=
  let table := routingTable h.position
  { position := h.position
    uplink := h.uplink.id
    table
    probe := h.probe
    gateway := h.gateway
    hostRoute :=
      { Route.plain (.host h.probe) h.gateway s!"probe {h.uplink.id}" with
        scope := some hostScope }
    tableDefault :=
      { Route.plain .everything (.address h.probe) s!"{table} default" with
        table := some table
        targetScope := some recursiveScope
        checkGateway := true }
    mainDefault :=
      { Route.plain .everything (.address h.probe) s!"{h.uplink.id} primary" with
        distance := some h.position
        targetScope := some recursiveScope
        checkGateway := true }
    backups := backupsOf hops h }

/-- The uplinks for which there is no probe left. -/
def dropped (uplinks : List Uplink) (probes : List Ipv4) : List Uplink :=
  uplinks.drop probes.length

/-- Are there more uplinks than probes, and is that refused? -/
def overflows (uplinks : List Uplink) (probes : List Ipv4) (overflow : Overflow) : Bool :=
  decide (probes.length < uplinks.length) && overflow == .reject

/-- The survey before any uplink with a probe has been looked at. -/
def start (uplinks : List Uplink) (probes : List Ipv4) : Survey :=
  (dropped uplinks probes).foldl (fun s u => s.skip u
    s!"uplink {u.id} exceeds the {probes.length} supported uplinks; not routed") ⟨[], [], []⟩

/-- The plan that a survey leads to, unless it has come upon an uplink that cannot be planned, and
what there is to tell. -/
def conclude : Survey × Option PlanError → Except PlanError Failover × List Note
  | (s, some e) => (.error e, s.notes)
  | (s, none) =>
    let tables := s.hops.map fun h => Note.debug
      s!"uplink {h.uplink.id} -> table {routingTable h.position}, probe {h.probe}"
    (.ok ⟨s.hops.map (routesOf s.hops), s.skipped⟩, s.notes ++ tables)

/-- The plan of the uplinks, or the first uplink that cannot be planned, and what there is to tell
about the planning. -/
def planning (uplinks : List Uplink) (probes : List Ipv4) (overflow : Overflow) :
    Except PlanError Failover × List Note :=
  if overflows uplinks probes overflow then
    (.error (.tooManyUplinks uplinks.length probes.length), [])
  else
    -- An uplink beyond the probes is not looked at.
    conclude ((start uplinks probes).pass (placed uplinks probes))

/-- The plan of the uplinks, or the first uplink that cannot be planned. -/
def plan (uplinks : List Uplink) (probes : List Ipv4) (overflow : Overflow) :
    Except PlanError Failover :=
  (planning uplinks probes overflow).1

/-- What there is to tell about the planning: the uplinks that are not routed, up to one that
cannot be planned, and then the tables and probes of the others. -/
def notes (uplinks : List Uplink) (probes : List Ipv4) (overflow : Overflow) : List Note :=
  (planning uplinks probes overflow).2

/-- The routing table of the uplink with an id, if it is routed. -/
def table? (f : Failover) (id : String) : Option String :=
  (f.uplinks.find? (·.uplink == id)).map (·.table)

/-- All routes, in the order in which they are made. -/
def routes (f : Failover) : List Route := f.uplinks.flatMap UplinkRoutes.routes

end Failover

open Document (Value)

/-- The document value of the routes of an uplink. -/
def UplinkRoutes.toValue (u : UplinkRoutes) : Value :=
  .table [
    ("index", .natural u.position),
    ("uplink", .text u.uplink),
    ("table", .text u.table),
    ("probe", .text u.probe.render),
    ("gateway", u.gateway.toValue),
    ("host_route", u.hostRoute.toValue),
    ("table_default", u.tableDefault.toValue),
    ("main_default", u.mainDefault.toValue),
    ("backups", .list (u.backups.map Route.toValue))]

/-- The document value of the plan. -/
def Failover.toValue (f : Failover) : Value :=
  .table [("uplinks", .list (f.uplinks.map UplinkRoutes.toValue)),
    ("skipped", .list (f.skipped.map .text))]

end SiteRouter
