import LiveLine.Annotation
import LiveLine.Terminal.Color

/-!
# Drawing on a terminal

An inline text is printed behind the label and the line number, in its color, and bold while some
highlight is live on the line. A highlight itself prints nothing. Alerts go to the error stream.
-/

namespace LiveLine

/-- A terminal, the highlights that are live on it, and what was written to its two streams. -/
structure Screen where
  label : Text
  highlights : List (Decoration.Id × Nat) := []
  out : Text := []
  err : Text := []
  deriving DecidableEq, Repr

namespace Screen

/-- An escape sequence that sets how text is drawn. -/
def escape (parameters : Text) : Text := '\x1b' :: '[' :: parameters ++ ['m']

def reset : Text := escape ['0']

def bold : Text := escape ['1']

def foreground (c : Color) : Text := escape ("38;5;".toList ++ Text.ofNat c.code)

def isHighlighted (s : Screen) (line : Nat) : Bool := s.highlights.any (·.2 == line)

/-- The printed form of an inline text. -/
def inlineText (s : Screen) (line : Nat) (text color : Text) : Text :=
  ((Color.ofName? color).map foreground).getD [] ++
    (if s.isHighlighted line then bold else []) ++
    s.label ++ ':' :: Text.ofNat (line + 1) ++ text ++ reset ++ reset ++ ['\n']

/-- Draws what a call asks for. -/
def draw (s : Screen) : SurfaceCall → Screen
  | .apply id (.highlight line ..) => { s with highlights := (id, line) :: s.highlights }
  | .apply _ (.inlineText line _ text color) =>
    { s with out := s.out ++ s.inlineText line text color }
  | .remove id => { s with highlights := s.highlights.filter (·.1 ≠ id) }
  | .alert message => { s with err := s.err ++ message.trimEnd ++ ['\n'] }

def drawAll (s : Screen) (calls : List SurfaceCall) : Screen := calls.foldl draw s

end Screen

end LiveLine
