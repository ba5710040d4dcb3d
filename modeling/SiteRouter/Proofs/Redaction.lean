import SiteRouter.Proofs.Compilation
import SiteRouter.Verify

/-!
# Sites without their secrets

A site holds three kinds of secrets: the token of the heartbeat, the password of the administrator
and the passwords of PPPoE uplinks. `Site.redacted` is the site with nothing in their place but what
is checked about them: whether the token is blank, and whether the administrator has a password.

What is found, planned and reported about a site is found, planned and reported about the redacted
one (`Site.findings_redacted`, `Plan.build_redacted`, `Site.report_redacted`). So two sites that are
redacted to the same one cannot be told apart there.
-/

namespace SiteRouter

/-! ## Redaction -/

/-- The kind without its password. -/
def UplinkKind.withoutPassword : UplinkKind → UplinkKind
  | .pppoe username _ => .pppoe username none
  | .static address gateway => .static address gateway
  | .dhcp => .dhcp

/-- The uplink without its password. -/
def Uplink.withoutPassword (u : Uplink) : Uplink := { u with kind := u.kind.withoutPassword }

/-- Of the token it is left whether it is blank, and of the password whether there is one. -/
def Management.redacted (m : Management) : Management where
  token := if Text.isBlankText m.token then "" else "-"
  heartbeatUrl := m.heartbeatUrl
  adminPassword := m.adminPassword.map fun _ => ""

/-- The site without its secrets. -/
def Site.redacted (s : Site) : Site :=
  { s with
    management := s.management.redacted
    uplinks := s.uplinks.map Uplink.withoutPassword }

/-! ## Uplinks -/

namespace Uplink

variable (u : Uplink)

@[simp] theorem id_withoutPassword : u.withoutPassword.id = u.id := rfl

@[simp] theorem interface_withoutPassword : u.withoutPassword.interface = u.interface := rfl

@[simp] theorem isPppoe_withoutPassword : u.withoutPassword.kind.isPppoe = u.kind.isPppoe := by
  rw [withoutPassword]
  cases u.kind <;> rfl

@[simp] theorem isRoutable_withoutPassword :
    u.withoutPassword.kind.isRoutable = u.kind.isRoutable := by
  rw [withoutPassword]
  cases u.kind <;> rfl

@[simp] theorem error?_withoutPassword : u.withoutPassword.error? = u.error? := by
  rw [withoutPassword, error?, error?]
  cases u.kind <;> rfl

@[simp] theorem gateway?_withoutPassword (position : Nat) :
    u.withoutPassword.gateway? position = u.gateway? position := by
  rw [withoutPassword, gateway?, gateway?]
  cases u.kind <;> rfl

end Uplink

/-! ## Findings -/

/-- A check that sees no difference finds the same along a list. -/
theorem findingsAlong_map {α β : Type} {g : α → β} {check : List β → β → List Finding}
    {check' : List α → α → List Finding}
    (h : ∀ earlier x, check (earlier.map g) (g x) = check' earlier x) (earlier xs : List α) :
    findingsAlong check (earlier.map g) (xs.map g) = findingsAlong check' earlier xs := by
  induction xs generalizing earlier with
  | nil => rfl
  | cons x xs ih =>
    have hearlier : earlier.map g ++ [g x] = (earlier ++ [x]).map g := by
      rw [List.map_append, List.map_singleton]
    rw [List.map_cons, findingsAlong, findingsAlong, h, hearlier, ih]

namespace Site

variable (s : Site)

theorem placedUplinks_redacted : s.redacted.placedUplinks =
    s.placedUplinks.map fun (i, u) => (i, u.withoutPassword) := by
  rw [placedUplinks, placedUplinks, redacted, List.zipIdx_map, List.map_map, List.map_map]
  rfl

/-- A search that sees no difference finds the same uplink. -/
theorem find?_placedUplinks_redacted {p : Nat × Uplink → Bool}
    (hp : ∀ i u, p (i, u.withoutPassword) = p (i, u)) : s.redacted.placedUplinks.find? p =
      (s.placedUplinks.find? p).map fun (i, u) => (i, u.withoutPassword) := by
  have hsame : (p ∘ fun (i, u) => (i, u.withoutPassword)) = p := funext fun (i, u) => hp i u
  rw [placedUplinks_redacted, List.find?_map, hsame]

theorem isNone_uplink?_redacted (id : String) :
    (s.redacted.uplink? id).isNone = (s.uplink? id).isNone := by
  rw [uplink?, uplink?, s.find?_placedUplinks_redacted fun i u => rfl, Option.isNone_map]

@[simp] theorem carriesUplink_redacted (port : String) :
    s.redacted.carriesUplink port = s.carriesUplink port := by
  rw [carriesUplink, carriesUplink, redacted, List.any_map]
  rfl

theorem requiredFieldFindings_redacted :
    s.redacted.requiredFieldFindings = s.requiredFieldFindings := by
  have htoken : Text.isBlankText s.redacted.management.token =
      Text.isBlankText s.management.token := by
    -- The two texts that stand for the token were chosen so that this holds.
    show Text.isBlankText (if Text.isBlankText s.management.token then "" else "-") = _
    cases Text.isBlankText s.management.token <;> decide
  rw [requiredFieldFindings, requiredFieldFindings, htoken]
  rfl

theorem uplinkFindings_redacted : s.redacted.uplinkFindings = s.uplinkFindings := by
  refine findingsAlong_map (g := Uplink.withoutPassword) (fun earlier u => ?_) [] s.uplinks
  simp only [List.any_map, List.find?_map, Function.comp_def, Uplink.id_withoutPassword,
    Uplink.interface_withoutPassword]
  cases earlier.find? (·.interface == u.interface) <;> rfl

theorem clashFindings_redacted (bridge : String) :
    s.redacted.clashFindings bridge = s.clashFindings bridge := by
  have howner : ∀ name, s.redacted.interfaceOwner? bridge name = s.interfaceOwner? bridge name := by
    intro name
    have hports : s.redacted.ports = s.ports := rfl
    rw [interfaceOwner?, interfaceOwner?, hports,
      s.find?_placedUplinks_redacted fun i u => by simp only [Uplink.isPppoe_withoutPassword]]
    cases s.placedUplinks.find? fun (i, u) => u.kind.isPppoe && pppoeInterface i == name <;> rfl
  rw [clashFindings, clashFindings]
  simp only [howner]
  rfl

theorem steeringFindings_redacted (strict : Bool) :
    s.redacted.steeringFindings strict = s.steeringFindings strict := by
  have hcount : s.redacted.routableCount = s.routableCount := by
    rw [routableCount, routableCount, redacted, List.countP_map]
    simp only [Function.comp_def, Uplink.isRoutable_withoutPassword]
  rw [steeringFindings, steeringFindings, hcount]
  simp only [isNone_uplink?_redacted]
  rfl

/-- Nothing more or else is found about a site because of its secrets. -/
theorem findings_redacted (profile : Profile) (strict : Bool) :
    s.redacted.findings profile strict = s.findings profile strict := by
  rw [findings, findings, requiredFieldFindings_redacted, uplinkFindings_redacted,
    clashFindings_redacted, steeringFindings_redacted]
  rfl

end Site

/-! ## Plans -/

theorem VlanTable.plan_redacted (s : Site) (bridge : String) :
    plan s.redacted bridge = plan s bridge := by
  have hbridged : s.redacted.bridged = s.bridged := by
    rw [Site.bridged, Site.bridged]
    simp only [Site.carriesUplink_redacted]
    rfl
  have hmemberships : s.redacted.memberships bridge = s.memberships bridge := by
    funext earlier networks
    induction networks generalizing earlier with
    | nil => rfl
    | cons n rest ih =>
      rw [Site.memberships, Site.memberships, ih, Site.taggedPorts, Site.taggedPorts, hbridged]
  rw [plan_eq, plan_eq, hbridged, hmemberships]
  rfl

namespace Failover

/-- The hop without the password of its uplink. -/
def withoutPassword (h : Hop) : Hop := { h with uplink := h.uplink.withoutPassword }

variable (uplinks : List Uplink) (probes : List Ipv4)

theorem hops_withoutPassword : hops (uplinks.map Uplink.withoutPassword) probes =
    (hops uplinks probes).map withoutPassword := by
  rw [hops, hops, placed, placed, List.zip_map_left, List.zipIdx_map, List.filterMap_map,
    List.map_filterMap]
  refine congrArg (List.filterMap · _) (funext fun x => ?_)
  simp only [Function.comp, Prod.map, hop?, Uplink.gateway?_withoutPassword, Option.map_map]
  rfl

theorem routesOf_withoutPassword (hops : List Hop) (h : Hop) :
    routesOf (hops.map withoutPassword) (withoutPassword h) = routesOf hops h := by
  have hbackups : backupsOf (hops.map withoutPassword) (withoutPassword h) = backupsOf hops h := by
    rw [backupsOf, backupsOf, List.filter_map, List.map_map]
    rfl
  rw [routesOf, hbackups]
  rfl

/-- A plan does not depend on the passwords of uplinks. -/
theorem plan_withoutPassword (overflow : Overflow) :
    plan (uplinks.map Uplink.withoutPassword) probes overflow = plan uplinks probes overflow := by
  have herror : ((uplinks.map Uplink.withoutPassword).take probes.length).findSome? Uplink.error? =
      (uplinks.take probes.length).findSome? Uplink.error? := by
    rw [← List.map_take, List.findSome?_map]
    simp only [Function.comp_def, Uplink.error?_withoutPassword]
  have hroutes : (hops (uplinks.map Uplink.withoutPassword) probes).map
      (routesOf (hops (uplinks.map Uplink.withoutPassword) probes)) =
      (hops uplinks probes).map (routesOf (hops uplinks probes)) := by
    rw [hops_withoutPassword, List.map_map]
    exact List.map_congr_left fun h _ => routesOf_withoutPassword _ h
  have hdropped : (dropped (uplinks.map Uplink.withoutPassword) probes).map Uplink.id =
      (dropped uplinks probes).map Uplink.id := by
    rw [dropped, dropped, ← List.map_drop, List.map_map]
    rfl
  have hunsupported : (unsupported (uplinks.map Uplink.withoutPassword) probes).map Uplink.id =
      (unsupported uplinks probes).map Uplink.id := by
    rw [unsupported, unsupported, ← List.map_take, List.filter_map, List.map_map]
    simp only [Function.comp_def, Uplink.isRoutable_withoutPassword]
    rfl
  rw [plan_eq, plan_eq, overflows, overflows, List.length_map, herror]
  simp only [hroutes, List.map_append, hdropped, hunsupported]

end Failover

/-- A plan does not depend on the secrets of its site. -/
theorem Plan.build_redacted (s : Site) (profile : Profile) (overflow : Overflow) :
    build s.redacted profile overflow = build s profile overflow := by
  have hfailover : Failover.plan s.redacted.uplinks profile.probes overflow =
      Failover.plan s.uplinks profile.probes overflow :=
    Failover.plan_withoutPassword s.uplinks profile.probes overflow
  rw [build, build, VlanTable.plan_redacted, hfailover]
  rfl

/-! ## Reports -/

/-- Nothing more or else is reported about a site because of its secrets. -/
theorem Site.report_redacted (s : Site) (profile : Profile) (source : String) (strict : Bool)
    (overflow : Overflow) : s.redacted.report profile source strict overflow =
      s.report profile source strict overflow := by
  have hstructure : s.redacted.structureIssues profile strict overflow =
      s.structureIssues profile strict overflow := by
    rw [structureIssues, structureIssues, findings_redacted, Plan.build_redacted]
    rfl
  have huplinks : s.redacted.uplinkIssues = s.uplinkIssues := by
    rw [uplinkIssues, uplinkIssues, redacted, List.isEmpty_map]
  have hports : s.redacted.portIssues = s.portIssues := by
    have hidle : s.redacted.idlePorts = s.idlePorts := by
      rw [idlePorts, idlePorts, lanPorts, lanPorts]
      simp only [carriesUplink_redacted]
      rfl
    rw [portIssues, portIssues, hidle]
    rfl
  have hpassword : s.redacted.passwordIssues profile = s.passwordIssues profile := by
    rw [passwordIssues, passwordIssues, redacted, Management.redacted, Option.isNone_map]
  rw [report, report, hstructure, huplinks, hports, hpassword]
  rfl

end SiteRouter
