import SiteRouter.Text.Visible

/-!
# Texts as literals

A text inside a message is shown between double quotes, so that its ends can be seen, and with
escapes for every character that would not be seen: a letter for the four common controls, the
code point in lower-case hexadecimal for the rest.
-/

namespace SiteRouter.Text

/-- One character of a literal. -/
def literalChar (c : Char) : List Char :=
  match c with
  | '"' => ['\\', '"']
  | '\\' => ['\\', '\\']
  | '\n' => ['\\', 'n']
  | '\r' => ['\\', 'r']
  | '\t' => ['\\', 't']
  | '\x00' => ['\\', '0']
  | _ =>
    if isVisible c then [c]
    else ['\\', 'u', '\x7b'] ++ Nat.toDigits 16 c.toNat ++ ['\x7d']

/-- The text between quotes, with nothing invisible left in it. -/
def literal (s : String) : String :=
  String.ofList ('"' :: s.toList.flatMap literalChar ++ ['"'])

end SiteRouter.Text
