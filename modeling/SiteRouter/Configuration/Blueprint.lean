import SiteRouter.Plan.Basic
import SiteRouter.Time.Timestamp

/-!
# Blueprints

Everything that the sections of a configuration are written from: a site that has been checked, the
profile, the plan, and the time that goes into the generation comment.
-/

namespace SiteRouter

/-- What a configuration is written from. -/
structure Blueprint where
  site : Site
  profile : Profile
  plan : Plan
  /-- Goes into one comment and nowhere else. -/
  generatedAt : Timestamp
  deriving DecidableEq

end SiteRouter
