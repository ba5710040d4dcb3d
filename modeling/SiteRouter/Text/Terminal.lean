/-!
# Text without terminal controls

A text may hold control characters and control sequences that would move the cursor, change colors
or set the title of a terminal. `plain` drops them and keeps what a reader sees: visible characters,
spaces, tabs and line breaks. A machine says for every character whether it belongs to a sequence.

A line break or tab inside a sequence is kept, and so is what stands behind it, up to the next
character that is not kept: there the sequence goes on.
-/

namespace SiteRouter.Text.Terminal

/-- Where a character stands. -/
inductive State where
  /-- Outside of every sequence. -/
  | text
  /-- Behind an escape character. -/
  | escape
  /-- In an escape sequence that has begun with characters below the digits. -/
  | escapeMore
  /-- In a control sequence, `ESC [`. -/
  | control
  /-- At the start of a device control, `ESC P`. -/
  | device
  /-- Among the parameters of a device control. -/
  | deviceParameters
  /-- Behind the parameters of a device control. -/
  | deviceMore
  /-- In a string that only its terminator ends. -/
  | string
  /-- In a command to the operating system, `ESC ]`. -/
  | command
  deriving DecidableEq, Repr

/-- Is the code between the bounds? -/
def isBetween (low high : Nat) (c : Char) : Bool := low ≤ c.toNat && c.toNat ≤ high

/-- Does the string terminator, the octet 9C, stand behind the first octet of the character? -/
def holdsTerminator (c : Char) : Bool :=
  let n := c.toNat
  (0x80 ≤ n && n % 64 = 0x1c) || (0x800 ≤ n && n / 64 % 64 = 0x1c) ||
    (0x10000 ≤ n && n / 4096 % 64 = 0x1c)

/-- The state behind a character. An escape starts a sequence and two controls end one wherever they
stand. -/
def State.next (s : State) (c : Char) : State :=
  if c = '\x1b' then .escape
  else if c = '\x18' || c = '\x1a' then .text
  else
    match s with
    | .text => .text
    | .escape =>
      if c = '[' then .control
      else if c = ']' then .command
      else if c = 'P' then .device
      else if c = 'X' || c = '^' || c = '_' then .string
      else if isBetween 0x20 0x2f c then .escapeMore
      else if isBetween 0x30 0x7e c then .text
      else .escape
    | .escapeMore => if isBetween 0x30 0x7e c then .text else .escapeMore
    | .control => if isBetween 0x40 0x7e c then .text else .control
    | .device =>
      if isBetween 0x20 0x2f c then .deviceMore
      else if isBetween 0x30 0x3f c then .deviceParameters
      else if isBetween 0x40 0x7e c then .string
      else .device
    | .deviceParameters =>
      if isBetween 0x20 0x2f c then .deviceMore
      else if isBetween 0x3c 0x7e c then .string
      else .deviceParameters
    | .deviceMore => if isBetween 0x30 0x7e c then .string else .deviceMore
    | .string => if holdsTerminator c then .text else .string
    | .command => if c = '\x07' then .text else .command

/-- A tab, or a control that breaks the line or the page. -/
def isBreak (c : Char) : Bool := c = '\t' || c = '\n' || c = '\x0c' || c = '\r'

/-- Is the character kept in that state? -/
def State.keeps (s : State) (c : Char) : Bool :=
  match s with
  | .text => isBreak c || isBetween 0x20 0x7e c || 0x80 ≤ c.toNat
  | .escape | .escapeMore | .control => isBreak c
  | _ => false

/-- The characters that are kept. `kept` tells whether the one before them is; as long as that is so
a sequence waits, and a character that is not ASCII ends it. -/
def plainFrom (kept : Bool) (s : State) : List Char → List Char
  | [] => []
  | c :: cs =>
    if kept && State.text.keeps c then
      c :: plainFrom true (if c.toNat < 0x80 then s else .text) cs
    else if s.keeps c then c :: plainFrom true (s.next c) cs
    else plainFrom false (s.next c) cs

/-- The text without control characters and control sequences. -/
def plain (s : String) : String := String.ofList (plainFrom false .text s.toList)

end SiteRouter.Text.Terminal
