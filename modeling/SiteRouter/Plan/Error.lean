import SiteRouter.Site.Basic

/-!
# Failures of planning

Why no plan can be made for a site. Each failure has a code that programs can match on and a
message for people.
-/

namespace SiteRouter

/-- Why no plan can be made. -/
inductive PlanError where
  | missingGateway (uplink : String)
  | missingAddress (uplink : String)
  | missingUsername (uplink : String)
  | tooManyUplinks (count max : Nat)
  | unknownNativeVlan (port : String) (vlan : VlanId)
  | unknownAccessVlan (port : String) (pvid : VlanId)
  | unknownTrunkVlan (port : String) (vlan : VlanId)
  | policyTargetUnrouted (network uplink : String)
  deriving DecidableEq

namespace PlanError

/-- The stable name of the kind of failure. -/
def code : PlanError → String
  | missingGateway .. => "missing_gateway"
  | missingAddress .. => "missing_address"
  | missingUsername .. => "missing_username"
  | tooManyUplinks .. => "too_many_uplinks"
  | unknownNativeVlan .. => "unknown_native_vlan"
  | unknownAccessVlan .. => "unknown_access_vlan"
  | unknownTrunkVlan .. => "unknown_trunk_vlan"
  | policyTargetUnrouted .. => "policy_target_unrouted"

/-- What is missing, in a sentence. -/
def message : PlanError → String
  | missingGateway uplink => s!"static uplink '{uplink}' has no gateway"
  | missingAddress uplink => s!"static uplink '{uplink}' has no address"
  | missingUsername uplink => s!"pppoe uplink '{uplink}' has no username"
  | tooManyUplinks count max =>
    s!"{count} uplinks supplied but only {max} probe addresses are available"
  | unknownNativeVlan port vlan =>
    s!"trunk port '{port}' uses native VLAN {vlan}, which no network defines"
  | unknownAccessVlan port pvid =>
    s!"access port '{port}' uses pvid {pvid}, which no network defines"
  | unknownTrunkVlan port vlan =>
    s!"trunk port '{port}' allows VLAN {vlan}, which no network defines"
  | policyTargetUnrouted network uplink =>
    s!"network '{network}' is steered to uplink '{uplink}', which has no routing table"

end PlanError

end SiteRouter
