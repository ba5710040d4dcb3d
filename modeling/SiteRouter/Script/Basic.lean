import SiteRouter.Script.Command

/-!
# Scripts

A script opens with header comments and then runs through named sections of comments and commands.
`Script.commands` is the view that most questions are asked of: the commands alone, in script order.
-/

namespace SiteRouter.Script

/-- A named run of lines. -/
structure Section where
  name : String
  lines : List Line
  deriving DecidableEq, Repr

namespace Section

/-- A section that holds commands only. -/
def ofCommands (name : String) (commands : List Command) : Section :=
  ⟨name, commands.map .command⟩

/-- Appends one line. -/
def push (s : Section) (line : Line) : Section := { s with lines := s.lines ++ [line] }

/-- Appends command lines. -/
def extend (s : Section) (commands : List Command) : Section :=
  { s with lines := s.lines ++ commands.map .command }

/-- The commands of the section, without its comments. -/
def commands (s : Section) : List Command := s.lines.filterMap Line.command?

/-- The comment line that announces the section. -/
def banner (s : Section) : String := "# --- " ++ s.name ++ " ---"

end Section

end SiteRouter.Script

namespace SiteRouter

open Script (Section Command)

/-- Header comments followed by sections. -/
structure Script where
  header : List String
  sections : List Section
  deriving DecidableEq, Repr

namespace Script

/-- The script with nothing in it. -/
def empty : Script := ⟨[], []⟩

/-- All commands, in script order. -/
def commands (s : Script) : List Command := s.sections.flatMap Section.commands

/-- The commands of one menu, in script order. -/
def commandsAt (s : Script) (path : String) : List Command :=
  s.commands.filter (·.path == path)

/-- How many commands stand before the first one that satisfies `p`, if there is one. -/
def position (s : Script) (p : Command → Bool) : Option Nat := s.commands.findIdx? p

/-- The header comment as it is written. -/
def headerLine (text : String) : String := "# " ++ text

end Script

end SiteRouter
