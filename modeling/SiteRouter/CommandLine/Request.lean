import SiteRouter.CommandLine.Arguments
import SiteRouter.Note
import SiteRouter.Time.Timestamp

/-!
# Requests

What a command line asks for: one of three commands with its options, and how much is to be told on
the way. The options that say how much may stand before the name of the command or after it.
-/

namespace SiteRouter.CommandLine

/-- How a result is shown. -/
inductive OutputForm where
  | text
  | json
  deriving DecidableEq, Repr

/-- The form with that name. -/
def OutputForm.ofString? (s : String) : Option OutputForm :=
  if s = "text" then some .text else if s = "json" then some .json else none

/-- Compile a site to a script. -/
structure CompileRequest where
  site : String
  /-- Where the script goes; without it the script is printed. -/
  output : Option String
  profile : Option String
  truncate : Bool
  strict : Bool
  generatedAt : Option Timestamp
  summary : Bool
  deriving DecidableEq

/-- Report on a site. -/
structure VerifyRequest where
  site : String
  form : OutputForm
  profile : Option String
  /-- Do warnings count as failures? -/
  warningsFail : Bool
  strict : Bool
  deriving DecidableEq

/-- Show the plan of a site. -/
structure PlanRequest where
  site : String
  form : OutputForm
  profile : Option String
  truncate : Bool
  deriving DecidableEq

/-- One of the commands. -/
inductive Request where
  | compile (request : CompileRequest)
  | verify (request : VerifyRequest)
  | plan (request : PlanRequest)
  deriving DecidableEq

/-- A command and how much is to be told on the way. -/
structure Invocation where
  verbose : Bool
  debug : Bool
  quiet : Bool
  request : Request
  deriving DecidableEq

/-- The level from which on notes are shown. -/
def Invocation.level (i : Invocation) : Level :=
  if i.debug then .debug else if i.verbose then .info else if i.quiet then .error else .warn

/-- The options that every command understands. -/
def commonForms : List OptionForm :=
  [⟨"verbose", some 'v', none⟩, ⟨"debug", some 'd', none⟩, ⟨"quiet", some 'q', none⟩]

/-- An option with a path for its value, which must not be empty. -/
def pathForm (long : String) (short : Option Char) : OptionForm := ⟨long, short, some (· ≠ "")⟩

/-- The option for the form of the result. -/
def formatForm : OptionForm := ⟨"format", none, some fun s => (OutputForm.ofString? s).isSome⟩

/-- The option for the time in the script. -/
def generatedAtForm : OptionForm :=
  ⟨"generated-at", none, some fun s => (Timestamp.ofString? s).isSome⟩

/-- An option without a value and without a letter. -/
def switchForm (long : String) : OptionForm := ⟨long, none, none⟩

/-- The options of `compile`. -/
def compileForms : List OptionForm :=
  commonForms ++ [pathForm "output" (some 'o'), pathForm "profile" none,
    switchForm "truncate-uplinks", switchForm "strict-policy", generatedAtForm,
    switchForm "summary"]

/-- The options of `verify`. -/
def verifyForms : List OptionForm :=
  commonForms ++ [formatForm, pathForm "profile" none, switchForm "strict",
    switchForm "strict-policy"]

/-- The options of `plan`. -/
def planForms : List OptionForm :=
  commonForms ++ [formatForm, pathForm "profile" none, switchForm "truncate-uplinks"]

/-- Quiet does not go together with verbose or debug. -/
def isConsistent (g : Given) : Bool :=
  !(g.has "quiet" && (g.has "verbose" || g.has "debug"))

/-- The form of the result; without the option it is text. -/
def form (g : Given) : OutputForm := ((g.value? "format").bind OutputForm.ofString?).getD .text

/-- The site, which every command needs. -/
def site? (g : Given) : Except Usage String :=
  match g.argument with
  | some site => .ok site
  | none => .error .refused

/-- The options and arguments of a command, all read. -/
def readAll (forms : List OptionForm) (arguments : List String) : Except Usage Given := do
  let (g, _) ← readArguments forms false (arguments.length + 1) .none arguments
  if isConsistent g then return g else .error .refused

/-- Is there help about what the arguments name: the program as a whole, or one command? -/
def isHelpTopic : List String → Bool
  | [] => true
  | [name] => ["compile", "verify", "plan", "help"].contains name
  | _ => false

/-- A command by its name and arguments. -/
def request? (name : String) (arguments : List String) : Except Usage (Given × Request) := do
  match name with
  | "compile" =>
    let g ← readAll compileForms arguments
    return (g, .compile {
      site := ← site? g
      output := g.value? "output"
      profile := g.value? "profile"
      truncate := g.has "truncate-uplinks"
      strict := g.has "strict-policy"
      generatedAt := (g.value? "generated-at").bind Timestamp.ofString?
      summary := g.has "summary" })
  | "verify" =>
    let g ← readAll verifyForms arguments
    return (g, .verify {
      site := ← site? g
      form := form g
      profile := g.value? "profile"
      warningsFail := g.has "strict"
      strict := g.has "strict-policy" })
  | "plan" =>
    let g ← readAll planForms arguments
    return (g, .plan {
      site := ← site? g
      form := form g
      profile := g.value? "profile"
      truncate := g.has "truncate-uplinks" })
  | "help" => .error (if isHelpTopic arguments then .help else .refused)
  | _ => .error .refused

/-- What a command line asks for. -/
def Invocation.ofArguments (arguments : List String) : Except Usage Invocation := do
  let (g, rest) ← readArguments commonForms true (arguments.length + 1) .none arguments
  match rest with
  | [] => .error .refused
  | name :: arguments =>
    let (own, request) ← request? name arguments
    if isConsistent g then
      let has := fun long => g.has long || own.has long
      return ⟨has "verbose", has "debug", has "quiet", request⟩
    else .error .refused

end SiteRouter.CommandLine
