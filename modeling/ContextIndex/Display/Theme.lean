/-!
# Styles of terminal text

A style is a list of display codes.  On a terminal without colours every style is plain.
-/

namespace ContextIndex.Display

/-- What a piece of text stands for. -/
inductive Style
  | heading
  | ok
  | failed
  | partialResult
  | accent
  | label
  | muted
deriving DecidableEq, Repr

/-- The display codes of a style. -/
def Style.codes : Style → String
  | heading => "36;1"
  | ok => "32;1"
  | failed => "31;1"
  | partialResult => "33;1"
  | accent => "35"
  | label => "37;2"
  | muted => "90"

/-- A text in a style. -/
def Style.apply (colored : Bool) (s : Style) (text : String) : String :=
  if colored then "\x1b[" ++ s.codes ++ "m" ++ text ++ "\x1b[0m" else text

end ContextIndex.Display
