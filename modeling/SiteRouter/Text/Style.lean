/-!
# Styled text

Text for a terminal that can show styles. A style is switched on before the text and off after it;
where the text itself switches styles off, the style is switched on again.
-/

namespace SiteRouter.Text

/-- A style of terminal text. -/
inductive Style where
  | bold
  | yellow
  | cyan
  deriving DecidableEq, Repr

/-- The control sequence that switches a style on. -/
def Style.on : Style → String
  | .bold => "\x1b[1m"
  | .yellow => "\x1b[33m"
  | .cyan => "\x1b[36m"

/-- The control sequence that switches all styles off. -/
def styleOff : String := "\x1b[0m"

/-- The text in a style, if styles are shown at all. -/
def styled (style : Style) (shown : Bool) (s : String) : String :=
  if shown then
    style.on ++ (styleOff ++ style.on).intercalate (s.splitOn styleOff) ++ styleOff
  else s

end SiteRouter.Text
