import SiteRouter.Address.Cidr
import SiteRouter.Document.Record

/-!
# Profiles

A profile holds what all routers of a fleet have in common: the names of lists and of the bridge,
the hosts that are probed, the accounts and services of the device, and the settings of DHCP,
hotspots and the heartbeat. A field that a document leaves out has the value of the built-in
profile.
-/

namespace SiteRouter

open Document

/-- The settings that all routers of a fleet share. -/
structure Profile where
  bridgeName : String
  /-- The interface list of all uplinks. -/
  wanList : String
  /-- The address list that may reach the management service. -/
  managementList : String
  /-- The address list of all configured networks. -/
  localList : String
  /-- The hosts that are probed, one for each position of an uplink. -/
  probes : List Ipv4
  timeZone : String
  ntpServers : List String
  adminUser : String
  adminGroup : String
  /-- The one service that stays enabled. -/
  managementService : String
  disabledServices : List String
  managementAllowList : List Cidr
  leaseTime : String
  hotspotLoginBy : List String
  heartbeatScript : String
  heartbeatInterval : String
  deriving DecidableEq

namespace Profile

/-- The profile that is used when no other is given. -/
def builtin : Profile where
  bridgeName := "bridge-lan"
  wanList := "WAN"
  managementList := "MGMT"
  localList := "LOCAL-NETS"
  probes := [.ofOctets 8 8 8 8, .ofOctets 1 1 1 1, .ofOctets 8 8 4 4, .ofOctets 1 0 0 1,
    .ofOctets 9 9 9 9]
  timeZone := "UTC"
  ntpServers := ["pool.ntp.org", "time.cloudflare.com"]
  adminUser := "netadmin"
  adminGroup := "full"
  managementService := "winbox"
  disabledServices := ["telnet", "ftp", "www", "www-ssl", "ssh", "api", "api-ssl"]
  managementAllowList := [⟨.ofOctets 10 0 0 0, 8, by decide⟩, ⟨.ofOctets 172 16 0 0, 12, by decide⟩,
    ⟨.ofOctets 192 168 0 0, 16, by decide⟩]
  leaseTime := "1d"
  hotspotLoginBy := ["cookie", "http-chap", "http-pap", "mac-cookie"]
  heartbeatScript := "heartbeat"
  heartbeatInterval := "5m"

/-- The names of the fields in documents. -/
def fieldNames : List String :=
  ["bridge_name", "wan_list", "management_list", "local_list", "probe_addresses", "time_zone",
    "ntp_servers", "admin_user", "admin_group", "management_service", "disabled_services",
    "management_allow_list", "dhcp_lease_time", "hotspot_login_by", "heartbeat_script",
    "heartbeat_interval"]

/-- A profile from a document value. -/
def ofValue (format : Format) (v : Value) : Option Profile := do
  let f ← fields? format fieldNames v
  let text := fun name default => f.optional name default Value.text?
  let texts := fun name default => f.optional name default (listOf Value.text?)
  return {
    bridgeName := ← text "bridge_name" builtin.bridgeName
    wanList := ← text "wan_list" builtin.wanList
    managementList := ← text "management_list" builtin.managementList
    localList := ← text "local_list" builtin.localList
    probes := ← f.optional "probe_addresses" builtin.probes (listOf (written Ipv4.ofString?))
    timeZone := ← text "time_zone" builtin.timeZone
    ntpServers := ← texts "ntp_servers" builtin.ntpServers
    adminUser := ← text "admin_user" builtin.adminUser
    adminGroup := ← text "admin_group" builtin.adminGroup
    managementService := ← text "management_service" builtin.managementService
    disabledServices := ← texts "disabled_services" builtin.disabledServices
    managementAllowList := ← f.optional "management_allow_list" builtin.managementAllowList
      (listOf (written Cidr.ofString?))
    leaseTime := ← text "dhcp_lease_time" builtin.leaseTime
    hotspotLoginBy := ← texts "hotspot_login_by" builtin.hotspotLoginBy
    heartbeatScript := ← text "heartbeat_script" builtin.heartbeatScript
    heartbeatInterval := ← text "heartbeat_interval" builtin.heartbeatInterval }

/-- The document value of a profile. -/
def toValue (p : Profile) : Value :=
  let texts := fun (ss : List String) => Value.list (ss.map .text)
  .table [
    ("bridge_name", .text p.bridgeName),
    ("wan_list", .text p.wanList),
    ("management_list", .text p.managementList),
    ("local_list", .text p.localList),
    ("probe_addresses", texts (p.probes.map Ipv4.render)),
    ("time_zone", .text p.timeZone),
    ("ntp_servers", texts p.ntpServers),
    ("admin_user", .text p.adminUser),
    ("admin_group", .text p.adminGroup),
    ("management_service", .text p.managementService),
    ("disabled_services", texts p.disabledServices),
    ("management_allow_list", texts (p.managementAllowList.map Cidr.render)),
    ("dhcp_lease_time", .text p.leaseTime),
    ("hotspot_login_by", texts p.hotspotLoginBy),
    ("heartbeat_script", .text p.heartbeatScript),
    ("heartbeat_interval", .text p.heartbeatInterval)]

end Profile

end SiteRouter
