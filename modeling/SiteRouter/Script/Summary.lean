import SiteRouter.Script.Basic
import SiteRouter.Text.Style

/-!
# Counts of a script

Two texts that tell how large a script is: one line with totals, and one line per section with the
number of its commands.
-/

namespace SiteRouter.Script

/-- How many lines of the script are comments, the header included and banners left out. -/
def commentCount (s : Script) : Nat :=
  s.header.length + (s.sections.flatMap (·.lines)).countP (·.command?.isNone)

/-- The totals on one line. -/
def totals (s : Script) : String :=
  s!"sections={s.sections.length} commands={s.commands.length} comments={s.commentCount}"

/-- One line per section with its number of commands. -/
def sectionCounts (s : Script) : String :=
  "\n".intercalate (s.sections.map fun sec => s!"- {sec.name}: {sec.commands.length}")

/-- The totals and the counts of the sections. On a terminal the totals are cyan. -/
def summary (s : Script) (color : Bool) : String :=
  let counts := s.sectionCounts
  "\n".intercalate (Text.styled .cyan color s.totals :: if counts = "" then [] else [counts])

end SiteRouter.Script
