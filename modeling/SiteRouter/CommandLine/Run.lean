import SiteRouter.CommandLine.Request
import SiteRouter.Compile
import SiteRouter.Document.Source
import SiteRouter.Files.Access
import SiteRouter.Plan.Render
import SiteRouter.Text.Terminal
import SiteRouter.Verify

/-!
# Running a request

One run of the program: the documents are read, the request is answered, and the answer is an exit
status with what goes to the two output streams. The only file that a run writes is the script, and
it is written after everything else has succeeded.
-/

namespace SiteRouter.CommandLine

open Text (fieldsAt)

/-- What a run leaves behind besides files. -/
structure Outcome where
  exitCode : Nat
  stdout : String
  /-- The notes that are shown. -/
  notes : List Note
  /-- The lines that follow the notes on the error stream. -/
  closing : List String
  deriving DecidableEq, Repr

/-- The lines of a text. -/
def linesOf (s : String) : List String := (fieldsAt '\n' s.toList).map String.ofList

/-- A note as it is shown: its level in front of the first line, the others indented. What the note
quotes from a document may steer no terminal; a sequence that does not end takes the line end of the
note with it. -/
def noteText (n : Note) : String :=
  Text.Terminal.plain
    (s!"{n.level.word}: " ++ "\n    ".intercalate (linesOf n.text) ++ "\n")

/-- A cause under its number, or under nothing when it is the only one. -/
def causeLines (number : Option Nat) (cause : String) : List String :=
  let (start, further) := match number with
    | some i => (String.ofList (List.replicate (5 - (toString i).length) ' ') ++ s!"{i}: ",
        "       ")
    | none => ("    ", "    ")
  match linesOf cause with
  | [] => []
  | first :: rest => (start ++ first) :: rest.map (further ++ ·)

/-- A failure with the chain of its causes. -/
def failureLines (message : String) (causes : List String) : List String :=
  linesOf s!"Error: {message}" ++
  match causes with
  | [] => []
  | [cause] => "" :: "Caused by:" :: causeLines none cause
  | causes =>
    "" :: "Caused by:" :: causes.zipIdx.flatMap fun (cause, i) => causeLines (some i) cause

namespace Outcome

/-- The arguments were not understood; nothing is done. -/
def usage : Usage → Outcome
  | .help => ⟨0, "", [], []⟩
  | .refused => ⟨2, "", [], []⟩

/-- The text of the error stream. -/
def stderr (o : Outcome) : String :=
  String.join (o.notes.map noteText ++ o.closing.map (· ++ "\n"))

end Outcome

/-- The notes from a level on. -/
def shownFrom (level : Level) (notes : List Note) : List Note :=
  notes.filter fun n => level.rank ≤ n.level.rank

/-- A run that fails. What it has printed stays printed. -/
def failure (level : Level) (notes : List Note) (stdout message : String) (causes : List String) :
    Outcome :=
  ⟨1, stdout, shownFrom level notes, failureLines message causes⟩

/-- A run that succeeds. -/
def success (level : Level) (notes : List Note) (stdout : String) (closing : List String) :
    Outcome :=
  ⟨0, stdout, shownFrom level notes, closing⟩

variable {m : Type → Type} [Monad m]

/-- Reads the site at a path, in the format that its name tells. -/
def loadSite (files : FileAccess m) (path : String) : m (Except SourceError Site) := do
  match ← files.read path with
  | .error e => return .error (.unreadableSite path e)
  | .ok text => return Site.ofText (.ofPath path) path text

/-- What there is to tell about a site that has been read. -/
def siteNote (path : String) : Note :=
  let format := match Document.Format.ofPath path with
    | .toml => "Toml"
    | .json => "Json"
  .debug s!"loaded model from {path} ({format})"

/-- Reads the profile at a path, or takes the built-in one; tells where it comes from. -/
def loadProfile (files : FileAccess m) :
    Option String → m (Except SourceError (Profile × String))
  | none => return .ok (.builtin, "embedded")
  | some path => do
    match ← files.read path with
    | .error e => return .error (.unreadableProfile path e)
    | .ok text => return (Profile.ofText path text).map fun profile => (profile, s!"file:{path}")

/-- A run that fails because a document cannot be used. -/
def sourceFailure (level : Level) (notes : List Note) (e : SourceError) : Outcome :=
  failure level notes "" e.message e.cause?.toList

/-- The policy for too many uplinks. -/
def overflowOf (truncate : Bool) : Overflow := if truncate then .truncate else .reject

/-- Answers a request with a site and a profile, once both have been read. -/
def withSources (files : FileAccess m) (level : Level) (site : String) (profile : Option String)
    (answer : List Note → Site → Profile → String → m Outcome) : m Outcome := do
  match ← loadSite files site with
  | .error e => return sourceFailure level [] e
  | .ok s =>
    match ← loadProfile files profile with
    | .error e => return sourceFailure level [siteNote site] e
    | .ok (p, source) => answer [siteNote site] s p source

/-- Writes a compiled script to its file, unless it would overwrite what it was made from. -/
def writeScript (files : FileAccess m) (level : Level) (notes : List Note) (r : CompileRequest)
    (output text : String) (closing : List String) : m Outcome := do
  -- Nothing has been written or printed so far, so a refusal leaves no trace.
  match ← files.guardScript output r.site r.profile with
  | some refusal => return failure level notes "" refusal.message []
  | none =>
    match ← files.write output text with
    | .error e => return failure level notes "" s!"failed to write script {output}" [e.message]
    | .ok () => return success level (notes ++ [.info s!"wrote {output}"]) "" closing

/-- Compiles a site. The clock is read only when no time is given. -/
def runCompile (files : FileAccess m) (now : m Timestamp) (color : Bool) (level : Level)
    (r : CompileRequest) : m Outcome :=
  withSources files level r.site r.profile fun notes site profile source => do
    let generatedAt ← match r.generatedAt with
      | some t => pure t
      | none => now
    let options : CompileOptions := ⟨generatedAt, overflowOf r.truncate, r.strict⟩
    let notes := notes ++ [.info s!"using profile {source}"] ++ compileNotes site profile options
    match compile site profile options with
    | .error e => return failure level notes "" s!"failed to compile {r.site}" [e.message, e.cause]
    | .ok compiled =>
      let closing := if r.summary then linesOf (compiled.script.summary color) else []
      match r.output with
      | none => return success level notes compiled.text closing
      | some output => writeScript files level notes r output compiled.text closing

/-- A document for the output stream, with a line end. -/
def printed (form : OutputForm) (text : String) (value : Document.Value) : String :=
  (match form with
    | .text => text
    | .json => Document.Json.render value) ++ "\n"

/-- Reports on a site. The run fails when there are errors, and in strict mode on any warning. -/
def runVerify (files : FileAccess m) (detailed : Bool) (level : Level) (r : VerifyRequest) :
    m Outcome :=
  withSources files level r.site r.profile fun notes site profile source => do
    let report := site.report profile source r.strict .reject
    let notes := notes ++ site.reportNotes profile r.strict .reject
    let stdout := printed r.form (report.render detailed) report.toValue
    if 0 < report.errors then
      return failure level notes stdout s!"verify failed: {report.errors} errors" []
    else if r.warningsFail ∧ 0 < report.warnings then
      return failure level notes stdout
        s!"verify failed in strict mode: {report.warnings} warnings" []
    else return success level notes stdout []

/-- Shows the plan of a site. -/
def runPlan (files : FileAccess m) (color : Bool) (level : Level) (r : PlanRequest) : m Outcome :=
  withSources files level r.site r.profile fun notes site profile _ => do
    match site.check profile false with
    | .error finding =>
      return failure level notes "" s!"invalid topology {r.site}" [finding.message]
    | .ok () =>
      let overflow := overflowOf r.truncate
      let notes := notes ++ Plan.notes site profile overflow
      match Plan.build site profile overflow with
      | .error e => return failure level notes "" s!"failed to plan {r.site}" [e.message]
      | .ok plan =>
        return success level notes (printed r.form (plan.render color) plan.toValue) []

/-- Runs the program with its arguments. -/
def run (files : FileAccess m) (now : m Timestamp) (color : Bool) (arguments : List String) :
    m Outcome := do
  match Invocation.ofArguments arguments with
  | .error u => return .usage u
  | .ok i =>
    match i.request with
    | .compile r => runCompile files now color i.level r
    | .verify r => runVerify files (i.verbose || i.debug) i.level r
    | .plan r => runPlan files color i.level r

end SiteRouter.CommandLine
