import SiteRouter.Document.Record
import SiteRouter.Site.Basic

/-!
# Sites from documents

How each part of a site is read from a document value. A document that is refused is refused
without a reason; the reader of the document's name gives the message.

Uplinks and assignments are variants: one field of the table, the tag, tells which fields the
others are. The other fields are kept aside until the tag is known, so that even one that the
variant does not have must be well formed.
-/

namespace SiteRouter

open Document

/-- A VLAN number. -/
def VlanId.ofValue (v : Value) : Option VlanId :=
  v.int?.bind fun n => if h : 0 ≤ n ∧ n < 65536 then some ⟨n.toNat, by omega⟩ else none

/-- The words for the kinds of hardware. -/
def Hardware.words : List (String × Hardware) := [("ether", .ether), ("sfp", .sfp), ("wlan", .wlan)]

/-- The words for the roles of ports. -/
def Role.words : List (String × Role) := [("wan", .wan), ("lan", .lan)]

/-- How the device is managed. -/
def Management.ofValue (format : Format) (v : Value) : Option Management := do
  let f ← fields? format ["token", "heartbeat_url", "admin_password"] v
  return {
    token := ← f.required "token" Value.text?
    heartbeatUrl := ← f.required "heartbeat_url" Value.text?
    adminPassword := ← f.optional "admin_password" none (nullable Value.text?) }

/-- A port. -/
def Port.ofValue (format : Format) (v : Value) : Option Port := do
  let f ← fields? format ["name", "hardware_type", "default_role"] v
  return {
    name := ← f.required "name" Value.text?
    hardware := ← f.required "hardware_type" (word format Hardware.words)
    role := ← f.required "default_role" (word format Role.words) }

/-- The only value under a name in a table. -/
def theOnly? (name : String) (entries : List (String × Value)) : Option Value :=
  match entries.filter (·.1 == name) with
  | [(_, v)] => some v
  | _ => none

/-- The kinds of uplinks as a tag names them, in the order in which a number counts them. -/
inductive UplinkKind.Tag where
  | pppoe
  | static
  | dhcp
  deriving DecidableEq, Repr

/-- The kind that a tag names: by its word, or by its number counted from zero. -/
def UplinkKind.Tag.ofValue : Value → Option UplinkKind.Tag
  | .text "pppoe" | .natural 0 => some .pppoe
  | .text "static" | .natural 1 => some .static
  | .text "dhcp" | .natural 2 => some .dhcp
  | _ => none

/-- How an uplink gets its connection, from the fields that were kept aside. -/
def UplinkKind.ofEntries (entries : List (String × Value)) : Option UplinkKind := do
  let rest := Value.table (entries.filter (·.1 != "kind"))
  match ← Tag.ofValue (← theOnly? "kind" entries) with
  | .pppoe =>
    let f ← fields? .json ["username", "password"] rest
    return .pppoe (← f.optional "username" none (nullable Value.text?))
      (← f.optional "password" none (nullable Value.text?))
  | .static =>
    let f ← fields? .json ["address", "gateway"] rest
    return .static (← f.optional "address" none (nullable (written Cidr.ofString?)))
      (← f.optional "gateway" none (nullable (written Ipv4.ofString?)))
  | .dhcp => return .dhcp

/-- An uplink, which is always given by name. The fields of its kind stand beside its own. -/
def Uplink.ofValue (format : Format) (v : Value) : Option Uplink := do
  let entries ← v.table?
  let own := fun name => name == "id" || name == "interface"
  let aside := entries.filter fun e => !own e.1
  if aside.all fun e => canKeepAside format e.2 then
    return {
      id := ← (← theOnly? "id" entries).text?
      interface := ← (← theOnly? "interface" entries).text?
      kind := ← UplinkKind.ofEntries aside }
  else none

/-- A network. -/
def Network.ofValue (format : Format) (v : Value) : Option Network := do
  let f ← fields? format ["id", "name", "vlan_id", "cidr", "dhcp", "hotspot"] v
  return {
    id := ← f.required "id" Value.text?
    name := ← f.required "name" Value.text?
    vlan := ← f.required "vlan_id" VlanId.ofValue
    cidr := ← f.required "cidr" (written Cidr.ofString?)
    dhcp := ← f.optional "dhcp" false Value.bool?
    hotspot := ← f.optional "hotspot" false Value.bool? }

/-- How a port carries networks, from the mode and the fields that were kept aside. -/
def Assignment.ofParts (mode : Value) (rest : Value) : Option Assignment :=
  match mode with
  | .text "access" => do
    let f ← fields? .json ["pvid"] rest
    return .access (← f.required "pvid" VlanId.ofValue)
  | .text "trunk" => do
    let f ← fields? .json ["native_vlan", "allowed_vlans"] rest
    return .trunk (← f.optional "native_vlan" VlanId.default VlanId.ofValue)
      (← f.optional "allowed_vlans" [] (listOf VlanId.ofValue))
  | _ => none

/-- How a port carries networks. In a list the mode comes first. -/
def Assignment.ofValue (format : Format) (v : Value) : Option Assignment :=
  match v with
  | .list [] => none
  | .list (mode :: rest) =>
    if rest.all (canKeepAside format) then ofParts mode (.list rest) else none
  | v => do
    let entries ← v.table?
    let rest := entries.filter (·.1 != "mode")
    if rest.all fun e => canKeepAside format e.2 then
      ofParts (← theOnly? "mode" entries) (.table rest)
    else none

/-- Which uplink each network should use. -/
def Steering.ofValue (format : Format) (v : Value) : Option Steering := do
  let f ← fields? format ["enabled", "mapping"] v
  return {
    enabled := ← f.optional "enabled" false Value.bool?
    mapping := ← f.optional "mapping" .empty (keyedOf Value.text?) }

/-- How names are resolved. -/
def Resolver.ofValue (format : Format) (v : Value) : Option Resolver := do
  let f ← fields? format ["servers", "allow_remote_requests"] v
  return {
    servers := ← f.required "servers" (listOf (written IpAddress.ofString?))
    answersClients := ← f.optional "allow_remote_requests" false Value.bool? }

/-- A whole site. -/
def Site.ofValue (format : Format) (v : Value) : Option Site := do
  let f ← fields? format ["identity", "management", "ports", "uplinks", "networks", "assignments",
    "policy_routing", "dns"] v
  return {
    identity := ← f.required "identity" Value.text?
    management := ← f.required "management" (Management.ofValue format)
    ports := ← f.optional "ports" [] (listOf (Port.ofValue format))
    uplinks := ← f.optional "uplinks" [] (listOf (Uplink.ofValue format))
    networks := ← f.optional "networks" [] (listOf (Network.ofValue format))
    assignments := ← f.optional "assignments" .empty (keyedOf (Assignment.ofValue format))
    steering := ← f.optional "policy_routing" ⟨false, .empty⟩ (Steering.ofValue format)
    resolver := ← f.required "dns" (Resolver.ofValue format) }

end SiteRouter
