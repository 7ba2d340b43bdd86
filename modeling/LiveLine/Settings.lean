import LiveLine.Verdict

/-!
# Settings

What a user may configure, each with its default.
-/

namespace LiveLine

/-- What happens to a run in flight when its session evaluates again: it may finish and still be
presented, or it is aborted. -/
inductive OverlapPolicy where
  | finish
  | cancel
  deriving DecidableEq, Repr

def OverlapPolicy.name : OverlapPolicy → Text
  | finish => "finish".toList
  | cancel => "cancel".toList

structure Settings where
  /-- The command that runs snippets, unless the script has a virtual environment. -/
  interpreterPath : Option Text := none
  outputColor : Text := "grey".toList
  errorColor : Text := "red".toList
  /-- Milliseconds without a change before a line is evaluated. -/
  debounceDelay : Nat := 300
  /-- Milliseconds that a run may take; zero lifts the bound. -/
  runTimeout : Nat := 10000
  onSupersede : OverlapPolicy := .finish
  /-- The file that holds the snippet, relative to the directory for temporary files. -/
  scratchFile : Text := "oxlive_snippet.py".toList
  deriving DecidableEq, Repr

namespace Settings

/-- The bound on a run, if there is one. -/
def runTimeout? (s : Settings) : Option Nat := if s.runTimeout = 0 then none else some s.runTimeout

def colors (s : Settings) : Colors := ⟨s.outputColor, s.errorColor⟩

end Settings

end LiveLine
