import SiteRouter.Configuration.Bridge
import SiteRouter.Configuration.Device
import SiteRouter.Configuration.Firewall
import SiteRouter.Configuration.Heartbeat
import SiteRouter.Configuration.Masquerade
import SiteRouter.Configuration.Networks
import SiteRouter.Configuration.Resolver
import SiteRouter.Configuration.Uplinks

/-!
# Configurations

The whole script of a device: a header with its name and eight sections in a fixed order, in which
everything is created before it is used.
-/

namespace SiteRouter.Blueprint

open Script

/-- The sections, in order. -/
def sections (b : Blueprint) : List Section :=
  [b.deviceSection, b.bridgeSection, b.uplinkSection, b.networkSection, b.resolverSection,
    b.firewallSection, b.masqueradeSection, b.heartbeatSection]

/-- The names of the sections, in the order in which every script has them. -/
def sectionNames : List String :=
  ["system", "bridge", "uplinks", "networks", "dns", "firewall", "nat", "heartbeat"]

/-- No section is left out or moved, whatever the script is for. -/
theorem map_name_sections (b : Blueprint) : b.sections.map Section.name = sectionNames := rfl

/-- The script of the device. -/
def script (b : Blueprint) : Script :=
  ⟨[s!"ros-topology configuration for {b.site.identity}"], b.sections⟩

/-- What there is to tell about one section. -/
def sectionNotes (b : Blueprint) (s : Section) : List Note :=
  (if s.name = "networks" then b.site.resolver.notes else []) ++
  [.debug s!"emitted section {s.name} with {s.commands.length} command(s)"]

/-- What there is to tell about the writing of the sections. -/
def notes (b : Blueprint) : List Note := b.sections.flatMap b.sectionNotes

end SiteRouter.Blueprint
