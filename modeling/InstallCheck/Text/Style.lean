/-!
Colours and weights of text on a terminal.
-/
namespace InstallCheck.Text

inductive Color
  | red
  | green
  | yellow
  | blue
  | cyan
  deriving DecidableEq, Repr

/-- The code of a colour. -/
def Color.code : Color → String
  | red => "31"
  | green => "32"
  | yellow => "33"
  | blue => "34"
  | cyan => "36"

/-- A text in a colour; what follows it is in the usual colour. -/
def colored (color : Color) (s : String) : String := "\x1b[" ++ color.code ++ "m" ++ s ++ "\x1b[39m"

/-- A text in bold type; what follows it is plain. -/
def bold (s : String) : String := "\x1b[1m" ++ s ++ "\x1b[0m"

/-- A dimmed text; what follows it is plain. -/
def dimmed (s : String) : String := "\x1b[2m" ++ s ++ "\x1b[0m"

end InstallCheck.Text
