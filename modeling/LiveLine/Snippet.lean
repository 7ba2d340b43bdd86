import LiveLine.Text.Basic

/-!
# Snippets

The snippet for a cursor is the text through the cursor line, closed by a line feed. Its lines are
those between line feeds.
-/

namespace LiveLine

/-- A unit of work for the interpreter: the source, and the line that its output belongs to. -/
structure Request where
  source : Text
  targetLine : Nat
  deriving DecidableEq, Repr

/-- The first `cursor + 1` lines of the text, each closed by a line feed. -/
def snippet (text : Text) (cursor : Nat) : Text :=
  Text.joinWith '\n' ((Text.splitOn '\n' text).take (cursor + 1)) ++ ['\n']

/-- The request for a cursor line. -/
def Request.through (text : Text) (cursor : Nat) : Request := ⟨snippet text cursor, cursor⟩

end LiveLine
