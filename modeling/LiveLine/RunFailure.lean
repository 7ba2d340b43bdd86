import LiveLine.Verdict

/-!
# How a run fails
-/

namespace LiveLine

inductive RunFailure where
  /-- The snippet could not be written. -/
  | write (message : Text)
  /-- The interpreter could not be started. -/
  | launch (program message : Text)
  /-- The interpreter could not be waited for. -/
  | wait (message : Text)
  /-- The interpreter ended without success. -/
  | exit (message : Text)
  /-- The interpreter took longer than its bound, given in microseconds. -/
  | timeout (micros : Nat)
  deriving DecidableEq, Repr

namespace RunFailure

def name : RunFailure → Text
  | write _ => "write".toList
  | launch .. => "launch".toList
  | wait _ => "wait".toList
  | exit _ => "exit".toList
  | timeout _ => "timeout".toList

def message : RunFailure → Text
  | write m => "File write error: ".toList ++ m
  | launch program m => "failed to launch interpreter `".toList ++ program ++ "`: ".toList ++ m
  | wait m => "failed to wait for interpreter: ".toList ++ m
  | exit m => m
  | timeout micros => "execution timed out after ".toList ++ Text.ofNat (micros / 1000) ++
      "ms".toList

/-- The result of a run of which nothing but the error is left. -/
def result (e : RunFailure) : RunResult := { failure := some e.message }

end RunFailure

end LiveLine
