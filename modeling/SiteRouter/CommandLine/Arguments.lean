/-!
# Arguments

The grammar of a command line, before any option has a meaning. An option is a long name after two
hyphens, or a letter after one; letters without a value may be run together. A value follows its
option after `=`, directly after a letter, or as the next argument, which then must not look like an
option. After `--` every argument stands for itself. No option may be given twice, and one argument
at most is no option. Arguments are judged one after the other, so that a call for help is heard
only when nothing before it is wrong.
-/

namespace SiteRouter.CommandLine

/-- An option that a command understands. -/
structure OptionForm where
  long : String
  short : Option Char
  /-- Which values it takes; without this it takes none. -/
  accepts : Option (String → Bool)

/-- Why arguments are not taken. -/
inductive Usage where
  /-- Help was asked for before anything was wrong. -/
  | help
  | refused
  deriving DecidableEq, Repr

/-- The options that have been read, and the argument that is no option. -/
structure Given where
  options : List (String × Option String)
  argument : Option String
  deriving DecidableEq, Repr

namespace Given

/-- Nothing read yet. -/
def none : Given := ⟨[], Option.none⟩

/-- Is the option given? -/
def has (g : Given) (long : String) : Bool := g.options.any (·.1 == long)

/-- The value of an option. -/
def value? (g : Given) (long : String) : Option String := (g.options.lookup long).join

/-- Adds an option, unless it has been given before. -/
def option (g : Given) (long : String) (value : Option String) : Except Usage Given :=
  if g.has long then .error .refused else .ok { g with options := g.options ++ [(long, value)] }

/-- Adds an option with a value that it takes. -/
def valued (g : Given) (long : String) (accepts : String → Bool) (value : String) :
    Except Usage Given :=
  if accepts value then g.option long (some value) else .error .refused

/-- Adds an argument that is no option, unless there is one; it must not be empty. -/
def other (g : Given) (argument : String) : Except Usage Given :=
  if g.argument.isSome || argument = "" then .error .refused
  else .ok { g with argument := some argument }

end Given

/-- Can the argument not be the value of the option before it? -/
def looksLikeOption (argument : String) : Bool :=
  match argument.toList with
  | '-' :: _ :: _ => true
  | _ => false

/-- The text before the first `=` and the text after it. -/
def cutAtEquals (cs : List Char) : String × Option String :=
  let name := cs.takeWhile (· ≠ '=')
  (String.ofList name, match cs.drop name.length with
    | _ :: value => some (String.ofList value)
    | [] => none)

/-- An option that needs a value and takes the next argument for it. -/
def withNext (g : Given) (long : String) (accepts : String → Bool) (rest : List String) :
    Except Usage (Given × List String) := do
  match rest with
  | value :: rest =>
    if looksLikeOption value then .error .refused
    else return (← g.valued long accepts value, rest)
  | [] => .error .refused

/-- An option with its long name. -/
def readLong (forms : List OptionForm) (g : Given) (cs : List Char) (rest : List String) :
    Except Usage (Given × List String) := do
  let (name, value) := cutAtEquals cs
  if name = "help" then .error (if value.isNone then .help else .refused)
  else
    match forms.find? (·.long == name) with
    | some form =>
      match form.accepts, value with
      | some accepts, some value => return (← g.valued name accepts value, rest)
      | some accepts, none => withNext g name accepts rest
      | none, none => return (← g.option name none, rest)
      | none, some _ => .error .refused
    | none => .error .refused

/-- Letters that have been run together. -/
def readShort (forms : List OptionForm) (rest : List String) :
    Given → List Char → Except Usage (Given × List String)
  | g, [] => .ok (g, rest)
  | g, c :: cs => do
    if c = 'h' then .error .help
    else
      match forms.find? (·.short == some c) with
      | some form =>
        match form.accepts with
        | none => readShort forms rest (← g.option form.long none) cs
        | some accepts =>
          -- What follows in the same argument is the value, with or without a `=` in front.
          match cs with
          | [] => withNext g form.long accepts rest
          | '=' :: value => return (← g.valued form.long accepts (String.ofList value), rest)
          | value => return (← g.valued form.long accepts (String.ofList value), rest)
      | none => .error .refused

/-- Reads arguments up to the first that is no option, if `stopAtOther`, or to the end. Gives what
has been read and the arguments from the first that is no option on. -/
def readArguments (forms : List OptionForm) (stopAtOther : Bool) :
    Nat → Given → List String → Except Usage (Given × List String)
  | 0, g, _ => .ok (g, [])
  | _, g, [] => .ok (g, [])
  | fuel + 1, g, argument :: rest => do
    match argument.toList with
    | ['-', '-'] =>
      -- A command has to be named before what stands for itself can start.
      if stopAtOther then .error .refused
      else return (← rest.foldlM Given.other g, [])
    | '-' :: '-' :: name =>
      let (g, rest) ← readLong forms g name rest
      readArguments forms stopAtOther fuel g rest
    | '-' :: c :: cs =>
      let (g, rest) ← readShort forms rest g (c :: cs)
      readArguments forms stopAtOther fuel g rest
    | _ =>
      if stopAtOther then return (g, argument :: rest)
      else readArguments forms stopAtOther fuel (← g.other argument) rest

end SiteRouter.CommandLine
