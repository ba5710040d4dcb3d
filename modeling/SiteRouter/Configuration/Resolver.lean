import SiteRouter.Configuration.Blueprint
import SiteRouter.Script.Basic

/-!
# Name resolution

The section that names the servers that the router itself asks and says whether it answers the
questions of its clients.
-/

namespace SiteRouter

open Script

/-- The section of name resolution. -/
def Blueprint.resolverSection (b : Blueprint) : Section :=
  let resolver := b.site.resolver
  .ofCommands "dns"
    [((Command.set "/ip dns").list "servers" (resolver.servers.map IpAddress.render)).flag
      "allow-remote-requests" resolver.answersClients]

end SiteRouter
