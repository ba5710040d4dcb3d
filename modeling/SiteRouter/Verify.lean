import SiteRouter.Plan.Basic

/-!
# Verifying a site

A report on a site without a script: what is wrong with it, and what is probably not what was
meant. Findings and failures of planning are errors; a site without findings is planned, so that
the report can tell what the plan leaves out.
-/

namespace SiteRouter

/-- How bad an issue is. -/
inductive Severity where
  | error
  | warning
  deriving DecidableEq, Repr

/-- The word for the severity in a text report. -/
def Severity.word : Severity → String
  | .error => "error"
  | .warning => "warning"

/-- The name of the severity in a document. -/
def Severity.name : Severity → String
  | .error => "Error"
  | .warning => "Warning"

/-- One entry of a report. -/
structure Issue where
  severity : Severity
  code : String
  message : String
  deriving DecidableEq

/-- A report on a site. -/
structure Report where
  identity : String
  /-- Where the profile comes from. -/
  profileSource : String
  issues : List Issue
  deriving DecidableEq

namespace Report

/-- How many issues have a severity. -/
def count (r : Report) (severity : Severity) : Nat := r.issues.countP (·.severity == severity)

/-- How many issues are errors. -/
def errors (r : Report) : Nat := r.count .error

/-- How many issues are warnings. -/
def warnings (r : Report) : Nat := r.count .warning

end Report

namespace Site

/-- What the plan of the site leaves out. -/
def planIssues (s : Site) (plan : Plan) : List Issue :=
  plan.failover.skipped.map (fun uplink => ⟨.warning, "unrouted_uplink",
    s!"uplink '{uplink}' is brought up but has no failover routes"⟩) ++
  if s.steering.enabled && !plan.steering.active then
    [⟨.warning, "policy_routing_inert",
      s!"policy routing is enabled but only {plan.failover.uplinks.length} uplink(s) are " ++
        "routed; no marks are emitted"⟩]
  else []

/-- A device without uplinks reaches nothing. -/
def uplinkIssues (s : Site) : List Issue :=
  if s.uplinks.isEmpty then
    [⟨.warning, "no_uplinks", "no uplinks configured; the device will have no default route"⟩]
  else []

/-- Ports that are left over, and ports that are used against their role. -/
def portIssues (s : Site) : List Issue :=
  s.idlePorts.map (fun p => ⟨.warning, "unassigned_lan_port",
    s!"LAN port '{p.name}' has no assignment and is left off the bridge"⟩) ++
  (s.assignments.keys.filter fun name => (s.port? name).any (·.role == .wan)).map
    fun name => ⟨.warning, "wan_role_port_bridged",
      s!"port '{name}' defaults to the WAN role but is assigned to the bridge"⟩

/-- Does a port with the assignment carry the VLAN, tagged or not? -/
def carries (vlan : VlanId) : Assignment → Bool
  | .access pvid => pvid == vlan
  | .trunk native allowed => native == vlan || allowed.contains vlan

/-- Networks that no port carries. -/
def networkIssues (s : Site) : List Issue :=
  (s.networks.filter fun n => !s.assignments.values.any (carries n.vlan)).map
    fun n => ⟨.warning, "network_without_members",
      s!"network '{n.id}' (VLAN {n.vlan}) is not carried by any port"⟩

/-- An account without a password is open to everyone. -/
def passwordIssues (s : Site) (profile : Profile) : List Issue :=
  if s.management.adminPassword.isNone then
    [⟨.warning, "missing_admin_password",
      s!"no admin password set; account '{profile.adminUser}' is created without one"⟩]
  else []

/-- The findings about the site as errors; without findings, what planning it brings up. -/
def structureIssues (s : Site) (profile : Profile) (strict : Bool) (overflow : Overflow) :
    List Issue :=
  match s.findings profile strict with
  | [] =>
    match Plan.build s profile overflow with
    | .ok plan => s.planIssues plan
    | .error e => [⟨.error, e.code, e.message⟩]
  | findings => findings.map fun f => ⟨.error, f.code, f.message⟩

/-- The report on a site. -/
def report (s : Site) (profile : Profile) (profileSource : String) (strict : Bool)
    (overflow : Overflow) : Report where
  identity := s.identity
  profileSource
  issues := s.structureIssues profile strict overflow ++ s.uplinkIssues ++ s.portIssues ++
    s.networkIssues ++ s.passwordIssues profile

/-- What there is to tell about making the report. -/
def reportNotes (s : Site) (profile : Profile) (strict : Bool) (overflow : Overflow) : List Note :=
  match s.findings profile strict with
  | [] => Plan.notes s profile overflow
  | _ :: _ => []

end Site

namespace Report

/-- The report for people; in detail it names the source of the profile. -/
def render (r : Report) (detailed : Bool) : String :=
  "\n".intercalate <|
    [s!"verify identity={r.identity}"] ++
    (if detailed then [s!"Using profile: {r.profileSource}"] else []) ++
    [s!"result errors={r.errors} warnings={r.warnings}", "issues"] ++
    if r.issues.isEmpty then ["- none"]
    else r.issues.map fun i => s!"- [{i.severity.word}] {i.code}: {i.message}"

open Document (Value)

/-- The document value of an issue. -/
def issueValue (i : Issue) : Value :=
  .table [("severity", .text i.severity.name), ("code", .text i.code), ("message", .text i.message)]

/-- The document value of a report. -/
def toValue (r : Report) : Value :=
  .table [("identity", .text r.identity), ("profile_source", .text r.profileSource),
    ("errors", .natural r.errors), ("warnings", .natural r.warnings),
    ("issues", .list (r.issues.map issueValue))]

end Report

end SiteRouter
