import SiteRouter.Document.Value
import SiteRouter.Note
import SiteRouter.Plan.Error
import SiteRouter.Site.Check

/-!
# The VLAN table

How the assigned ports join the bridge, and which members of the bridge carry each VLAN tagged. An
access port is a member through its untagged VLAN alone. A trunk port is a tagged member of every
VLAN it allows but its native one. Ports that carry an uplink are never bridged.

The table is drafted assignment by assignment (`VlanDraft.join`), and the first one with a VLAN that
no network has puts an end to it.
-/

namespace SiteRouter

/-- How a port joins the bridge. -/
structure BridgePort where
  port : String
  mode : PortMode
  /-- The VLAN that the port carries untagged. -/
  pvid : VlanId
  deriving DecidableEq

/-- Who carries the VLAN of a network tagged. -/
structure Membership where
  vlan : VlanId
  network : String
  /-- The bridge, then trunk ports in the order of their assignments. -/
  tagged : List String
  deriving DecidableEq

/-- The ports and the VLANs of the bridge. -/
structure VlanTable where
  bridge : String
  ports : List BridgePort
  vlans : List Membership
  deriving DecidableEq

/-- What the assignments have come to so far. -/
structure VlanDraft where
  ports : List BridgePort
  /-- Who carries the VLAN of each network tagged, in the order of the networks. -/
  members : List (List String)
  deriving DecidableEq

namespace VlanDraft

/-- The members with one more, unless it is one of them already. -/
def withMember (port : String) (members : List String) : List String :=
  if members.contains port then members else members ++ [port]

/-- Nothing has been assigned, and the bridge carries every VLAN. -/
def start (s : Site) (bridge : String) : VlanDraft := ⟨[], s.networks.map fun _ => [bridge]⟩

/-- Tags a trunk port for a VLAN that it allows. The VLAN belongs to the first network that has
it. -/
def tag (s : Site) (port : String) (native : VlanId) (members : List (List String))
    (vlan : VlanId) : Except PlanError (List (List String)) :=
  if vlan = native then .ok members
  else
    match s.networks.findIdx? (·.vlan == vlan) with
    | none => .error (.unknownTrunkVlan port vlan)
    | some i => .ok (members.modify i (withMember port))

/-- The members with those that an assignment makes. Only the default VLAN needs no network. -/
def assign (s : Site) (port : String) (members : List (List String)) :
    Assignment → Except PlanError (List (List String))
  | .access pvid =>
    if s.hasVlan pvid then .ok members else .error (.unknownAccessVlan port pvid)
  | .trunk native allowed =>
    if native ≠ VlanId.default ∧ !s.hasVlan native then .error (.unknownNativeVlan port native)
    else allowed.foldlM (tag s port native) members

/-- The draft with an assignment, which does not count for a port that carries an uplink. -/
def join (s : Site) (d : VlanDraft) : String × Assignment → Except PlanError VlanDraft
  | (port, a) =>
    if s.carriesUplink port then .ok d
    else (assign s port d.members a).map fun members =>
      ⟨d.ports ++ [⟨port, a.mode, a.pvid⟩], members⟩

/-- The table that the draft stands for. -/
def table (s : Site) (bridge : String) (d : VlanDraft) : VlanTable where
  bridge
  ports := d.ports
  vlans := (s.networks.zip d.members).map fun (n, members) => ⟨n.vlan, n.name, members⟩

end VlanDraft

namespace VlanTable

/-- The table of a site's bridge, or the first assignment whose VLANs are unknown. -/
def plan (s : Site) (bridge : String) : Except PlanError VlanTable :=
  (s.assignments.entries.foldlM (VlanDraft.join s) (.start s bridge)).map (VlanDraft.table s bridge)

/-- What there is to tell about the planning: which assignments are passed over, up to one whose
VLANs are unknown, and which ports are left off the bridge. -/
def notes (s : Site) : List Note :=
  -- Whether an assignment can be taken does not depend on those before it.
  let ok := fun (port, a) => s.carriesUplink port || (VlanDraft.assign s port [] a).isOk
  let passedOver := ((s.assignments.entries.takeWhile ok).filter (s.carriesUplink ·.1)).map
    fun (port, _) => Note.debug s!"port {port} carries an uplink; not bridged"
  let idle := s.idlePorts.map
    fun p => Note.warn s!"LAN port {p.name} has no assignment; left off the bridge"
  passedOver ++ if s.assignments.entries.all ok then idle else []

/-- The entry of a VLAN. -/
def membership? (t : VlanTable) (vlan : VlanId) : Option Membership :=
  t.vlans.find? (·.vlan == vlan)

end VlanTable

open Document (Value)

/-- The document value of a port of the bridge. -/
def BridgePort.toValue (p : BridgePort) : Value :=
  .table [("port", .text p.port), ("mode", .text p.mode.word), ("pvid", .natural p.pvid.val)]

/-- The document value of a membership. -/
def Membership.toValue (m : Membership) : Value :=
  .table [("vlan_id", .natural m.vlan.val), ("network", .text m.network),
    ("tagged", .list (m.tagged.map .text))]

/-- The document value of the table. -/
def VlanTable.toValue (t : VlanTable) : Value :=
  .table [("bridge", .text t.bridge), ("ports", .list (t.ports.map BridgePort.toValue)),
    ("vlans", .list (t.vlans.map Membership.toValue))]

end SiteRouter
