import SiteRouter.Document.Json
import SiteRouter.Document.Toml
import SiteRouter.Files.Error
import SiteRouter.Profile
import SiteRouter.Site.Decode
import SiteRouter.Text.Fields

/-!
# Reading sites and profiles

From the text of a file to the site or the profile in it. The name of a site's file tells its
format; a profile is always TOML and has to name a host to probe.
-/

namespace SiteRouter

open Document

namespace Document.Format

/-- The last component of a path that is a name; `.` and empty components do not count, and a path
that ends in `..` has none. -/
def fileName? (path : String) : Option (List Char) :=
  let parts := (Text.fieldsAt '/' path.toList).filter fun f => f ≠ [] && f ≠ ['.']
  parts.getLast?.bind fun name => if name = ['.', '.'] then none else some name

/-- What follows the last dot of a file name, unless the dot is its first character. -/
def extension? (name : List Char) : Option (List Char) :=
  match (Text.fieldsAt '.' name).reverse with
  | last :: rest => if rest = [] ∨ rest = [[]] then none else some last
  | [] => none

/-- The format of a file: JSON when its name ends in `.json`, in either case, and TOML otherwise. -/
def ofPath (path : String) : Format :=
  match (fileName? path).bind extension? with
  | some ext => if ext.map Char.toLower = ['j', 's', 'o', 'n'] then .json else .toml
  | none => .toml

/-- The name of the format. -/
def name : Format → String
  | .toml => "TOML"
  | .json => "JSON"

/-- Reads a text in the format. -/
def read : Format → String → Option Value
  | .toml, s => Toml.read s
  | .json, s => Json.read s

end Document.Format

/-- Why there is no site or no profile. -/
inductive SourceError where
  | unreadableSite (path : String) (cause : FileError)
  | malformedSite (format : Format) (path : String)
  | unreadableProfile (path : String) (cause : FileError)
  | malformedProfile (path : String)
  /-- The profile leaves nothing to probe. -/
  | noProbes (path : String)
  deriving DecidableEq, Repr

namespace SourceError

/-- What went wrong, without an explanation of why a document is malformed. -/
def message : SourceError → String
  | .unreadableSite path cause => s!"failed to read model {path}: {cause.message}"
  | .malformedSite format path => s!"failed to parse {format.name} model {path}"
  | .unreadableProfile path cause => s!"failed to read profile {path}: {cause.message}"
  | .malformedProfile path => s!"failed to parse profile {path}"
  | .noProbes path => s!"profile {path} lists no probe addresses"

/-- The failure underneath, if there is one. -/
def cause? : SourceError → Option String
  | .unreadableSite _ cause => some cause.message
  | .unreadableProfile _ cause => some cause.message
  | _ => none

end SourceError

/-- The site in a text; its origin is named when it is malformed. -/
def Site.ofText (format : Format) (origin text : String) : Except SourceError Site :=
  match (format.read text).bind (Site.ofValue format) with
  | some site => .ok site
  | none => .error (.malformedSite format origin)

/-- The profile in a text; its origin is named when it cannot be used. -/
def Profile.ofText (origin text : String) : Except SourceError Profile :=
  match (Toml.read text).bind (Profile.ofValue .toml) with
  | some profile => if profile.probes = [] then .error (.noProbes origin) else .ok profile
  | none => .error (.malformedProfile origin)

end SiteRouter
