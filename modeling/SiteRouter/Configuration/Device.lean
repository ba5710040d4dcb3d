import SiteRouter.Configuration.Blueprint
import SiteRouter.Script.Basic

/-!
# The device itself

The section that gives the device its name, its clock and its account, and closes the services that
it should not offer. Of those only the management service stays open, to the allowed networks if
any are named.
-/

namespace SiteRouter.Blueprint

open Script

/-- The name of the device and its clock. -/
def identityCommands (b : Blueprint) : List Command :=
  [(Command.set "/system identity").arg "name" b.site.identity,
    (Command.set "/system clock").arg "time-zone-name" b.profile.timeZone] ++
  if b.profile.ntpServers.isEmpty then []
  else [((Command.set "/system ntp client").flag "enabled" true).list "servers"
    b.profile.ntpServers]

/-- The account of the administrator, without a password when none is given. -/
def accountCommand (b : Blueprint) : Command :=
  (((Command.add "/user").arg "name" b.profile.adminUser).arg "group"
    b.profile.adminGroup).argIfSome "password" b.site.management.adminPassword

/-- The services that are closed, and the one that stays open. -/
def serviceCommands (b : Blueprint) : List Command :=
  let service := fun name disabled =>
    ((Command.set "/ip service").on name).flag "disabled" disabled
  let management := service b.profile.managementService false
  (b.profile.disabledServices.filter (· != b.profile.managementService)).map (service · true) ++
  [if b.profile.managementAllowList.isEmpty then management
    else management.list "address" (b.profile.managementAllowList.map Cidr.render)]

/-- The section of the device itself. -/
def deviceSection (b : Blueprint) : Section :=
  (Section.mk "system" [.comment s!"generated {b.generatedAt}"]).extend
    (b.identityCommands ++ [b.accountCommand] ++ b.serviceCommands)

end SiteRouter.Blueprint
