import SiteRouter.Script.Quote

/-!
# Console commands

A command names a menu by its full path, says whether it adds an item or sets properties of one,
may select that item, and carries arguments in the order they are written. The value of an argument
is kept raw; it is quoted only when the command is rendered, so that nothing a value holds can end
its argument.
-/

namespace SiteRouter.Script

/-- What a command does to its menu. -/
inductive Action where
  | add
  | set
  deriving DecidableEq, Repr

/-- The verb as it is written. -/
def Action.word : Action → String
  | .add => "add"
  | .set => "set"

/-- One `key=value` argument, or a bare keyword when there is no value. -/
structure Arg where
  key : String
  value : Option String
  deriving DecidableEq, Repr

/-- The argument as it is written, with its value quoted where that is needed. -/
def Arg.render (arg : Arg) : String :=
  match arg.value with
  | some value => arg.key ++ "=" ++ quote value
  | none => arg.key

/-- One command with its full menu path. -/
structure Command where
  path : String
  action : Action
  /-- The item a `set` applies to, written verbatim. -/
  target : Option String
  args : List Arg
  deriving DecidableEq, Repr

namespace Command

/-- A command that adds an item under `path`, without arguments so far. -/
def add (path : String) : Command := ⟨path, .add, none, []⟩

/-- A command that sets properties under `path`, without arguments so far. -/
def set (path : String) : Command := ⟨path, .set, none, []⟩

/-- Selects the item that the command applies to. -/
def on (c : Command) (target : String) : Command := { c with target := some target }

/-- Appends the argument `key=value`. -/
def arg (c : Command) (key value : String) : Command :=
  { c with args := c.args ++ [⟨key, some value⟩] }

/-- Appends a keyword that has no value. -/
def keyword (c : Command) (key : String) : Command :=
  { c with args := c.args ++ [⟨key, none⟩] }

/-- Appends the argument when there is a value for it. -/
def argIfSome (c : Command) (key : String) : Option String → Command
  | some value => c.arg key value
  | none => c

/-- Appends a truth value, which the console spells `yes` or `no`. -/
def flag (c : Command) (key : String) (on : Bool) : Command :=
  c.arg key (if on then "yes" else "no")

/-- Appends a list, which the console separates by commas. -/
def list (c : Command) (key : String) (values : List String) : Command :=
  c.arg key (String.intercalate "," values)

/-- The raw value of the first argument with that key; a bare keyword has none. -/
def get? (c : Command) (key : String) : Option String :=
  (c.args.find? (·.key == key)).bind (·.value)

/-- Is there an argument or a keyword with that key? -/
def contains (c : Command) (key : String) : Bool := c.args.any (·.key == key)

/-- Is `value` the raw value of the first argument with that key? -/
def has (c : Command) (key value : String) : Bool := c.get? key == some value

/-- The words of the command before its arguments. -/
def opening (c : Command) : String :=
  c.path ++ " " ++ c.action.word ++ (match c.target with | some t => " " ++ t | none => "")

/-- The command as one line of a script. -/
def render (c : Command) : String :=
  c.args.foldl (fun line arg => line ++ " " ++ arg.render) c.opening

end Command

/-- One line of a script. -/
inductive Line where
  | comment (text : String)
  | command (command : Command)
  deriving DecidableEq, Repr

namespace Line

/-- The command on the line, if it holds one. -/
def command? : Line → Option Command
  | .comment _ => none
  | .command c => some c

/-- The line as it is written, without its line end. -/
def render : Line → String
  | .comment text => "# " ++ text
  | .command c => c.render

end Line

end SiteRouter.Script
