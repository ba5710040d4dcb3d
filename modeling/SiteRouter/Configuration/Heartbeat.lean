import SiteRouter.Configuration.Blueprint
import SiteRouter.Script.Basic

/-!
# The heartbeat

The section that stores a script on the device and lets the scheduler run it. The stored script is
one command of its own, whose values are quoted once for itself; as the value of an argument it is
quoted once more when the section is written.
-/

namespace SiteRouter

open Script

/-- The stored script: one request to the monitoring service with the bearer token. -/
def heartbeatSource (url token : String) : String :=
  "/tool fetch url=" ++ quote url ++ " http-method=post http-header-field=" ++
    quote ("Authorization: Bearer " ++ token) ++ " output=none"

/-- The section of the heartbeat. -/
def Blueprint.heartbeatSection (b : Blueprint) : Section :=
  let management := b.site.management
  let name := b.profile.heartbeatScript
  .ofCommands "heartbeat"
    [(((Command.add "/system script").arg "name" name).arg "policy" "read,write,test").arg "source"
        (heartbeatSource management.heartbeatUrl management.token),
      ((((Command.add "/system scheduler").arg "name" name).arg "interval"
        b.profile.heartbeatInterval).arg "start-time" "startup").arg "on-event" name]

end SiteRouter
