/-!
# Styles of text

Colours and weights of text on a terminal, written as escape sequences around the text where the
terminal shows colours.

## Main definitions

* `MessageKeys.Style` — the styles, with their codes.
* `MessageKeys.Style.apply` — a text in a style.
-/

namespace MessageKeys

/-- A way in which text stands out. -/
inductive Style where
  | bold
  | boldRed
  | boldYellow
  | dimmedCyan
  | red
  | green
  | yellow
  | blue
  | cyan
  deriving DecidableEq, Repr

namespace Style

/-- The codes that switch a style on. -/
def codes : Style → String
  | bold => "1"
  | boldRed => "1;31"
  | boldYellow => "1;33"
  | dimmedCyan => "2;36"
  | red => "31"
  | green => "32"
  | yellow => "33"
  | blue => "34"
  | cyan => "36"

/-- A text in a style, on a terminal that shows colours or not. -/
def apply (style : Style) (colours : Bool) (text : String) : String :=
  if colours then "\x1b[" ++ style.codes ++ "m" ++ text ++ "\x1b[0m" else text

end Style

end MessageKeys
