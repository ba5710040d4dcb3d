import SiteRouter.Configuration.Basic
import SiteRouter.Script.Summary
import SiteRouter.Script.Writer

/-!
# Compiling a site

From a site to the text of its script: the site is checked, planned and written, and the first step
that fails gives the reason. There is no partial result.
-/

namespace SiteRouter

/-- Why a site has no script. -/
inductive CompileError where
  | site (finding : Finding)
  | plan (error : PlanError)
  | script (line : Script.Placed)
  deriving DecidableEq

namespace CompileError

/-- The reason itself. -/
def cause : CompileError → String
  | .site finding => finding.message
  | .plan error => error.message
  | .script line => line.message

/-- The reason with the step that failed. -/
def message : CompileError → String
  | .site finding => s!"invalid topology: {finding.message}"
  | .plan error => s!"planning failed: {error.message}"
  | .script line => s!"emission failed: {line.message}"

end CompileError

/-- What may be chosen for a compilation besides the site and the profile. -/
structure CompileOptions where
  generatedAt : Timestamp
  overflow : Overflow := .reject
  /-- Does every network need a mapping where networks are steered? -/
  strict : Bool := false
  deriving DecidableEq

/-- A compiled site. -/
structure Compiled where
  plan : Plan
  script : Script
  text : String
  deriving DecidableEq

/-- The script of a site, or the reason why there is none. -/
def compile (s : Site) (profile : Profile) (options : CompileOptions) :
    Except CompileError Compiled := do
  (s.check profile options.strict).mapError .site
  let plan ← (Plan.build s profile options.overflow).mapError .plan
  let script := (Blueprint.mk s profile plan options.generatedAt).script
  let text ← script.write.mapError .script
  return { plan, script, text }

/-- What there is to tell about a compilation. -/
def compileNotes (s : Site) (profile : Profile) (options : CompileOptions) : List Note :=
  match s.check profile options.strict with
  | .error _ => []
  | .ok () =>
    Plan.notes s profile options.overflow ++
    match Plan.build s profile options.overflow with
    | .error _ => []
    | .ok plan =>
      let blueprint := Blueprint.mk s profile plan options.generatedAt
      blueprint.notes ++
      match blueprint.script.write with
      | .error _ => []
      | .ok _ =>
        [.info s!"compiled {s.identity} into {blueprint.script.commands.length} command(s)"]

end SiteRouter
