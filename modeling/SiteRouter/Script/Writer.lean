import SiteRouter.Script.Basic
import SiteRouter.Text.Literal

/-!
# Writing a script

The device console takes printable ASCII only. `Script.write` renders every line, checks it after
quoting, and gives either the whole text or the first line that the console cannot take; there is
no partial script.
-/

namespace SiteRouter.Script

/-- One rendered line and where it comes from: the name of its section, or `header`, and its number
there. Header comments and banners are line 0; the lines of a section count from 1. -/
structure Placed where
  place : String
  number : Nat
  text : String
  deriving DecidableEq, Repr

/-- The lines of one section, its banner first. -/
def Section.placed (s : Section) : List Placed :=
  ⟨s.name, 0, s.banner⟩ ::
    s.lines.zipIdx.map fun (line, i) => ⟨s.name, i + 1, line.render⟩

/-- Every line of the script in the order it is written. -/
def placed (s : Script) : List Placed :=
  s.header.map (fun text => ⟨"header", 0, headerLine text⟩) ++ s.sections.flatMap Section.placed

/-- Can the console take the character? -/
def isConsoleChar (c : Char) : Bool := ' ' ≤ c && c ≤ '~'

/-- Can the console take every character of the line? -/
def Placed.isSafe (p : Placed) : Bool := p.text.toList.all isConsoleChar

/-- Why a line is refused. -/
def Placed.message (p : Placed) : String :=
  s!"section '{p.place}' line {p.number}: non-ASCII or control character in " ++
    Text.literal p.text

/-- The text of the script, or the first line that the console cannot take. -/
def write (s : Script) : Except Placed String :=
  match s.placed.find? (fun p => !p.isSafe) with
  | some p => .error p
  | none => .ok (String.join (s.placed.map fun p => p.text ++ "\n"))

end SiteRouter.Script
