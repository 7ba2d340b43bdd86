import LiveLine.Shell.Evaluation

/-!
# Processes

Starting a program on a tree of files, and what is left when it has ended.
-/

namespace LiveLine

/-- How a process ended. -/
inductive Ending where
  | exited (status : Nat)
  | killed (signal : Nat) (leftCore : Bool)
  deriving DecidableEq, Repr

namespace Ending

def isSuccess (e : Ending) : Bool := e = .exited 0

/-- The status of a process that ended by itself. -/
def code? : Ending → Option Nat
  | exited n => some n
  | killed .. => none

/-- An ending as it is told about. -/
def description : Ending → Text
  | exited n => "exit status: ".toList ++ Text.ofNat n
  | killed n leftCore =>
    let name := match Shell.Signal.name? n with
      | some name => " (".toList ++ name ++ [')']
      | none => []
    "signal: ".toList ++ Text.ofNat n ++ name ++
      if leftCore then " (core dumped)".toList else []

end Ending

/-- A process that is over. -/
structure Process where
  /-- How it ended, unless it took longer than it may; or why nobody could wait for its end. -/
  ending : Except FileError (Option Ending)
  stdout : Bytes
  stderr : Bytes
  files : FileTree
  /-- Milliseconds from its start to its end. -/
  elapsed : Nat

/-- What a process is started with. -/
structure Launch where
  files : FileTree
  cwd : List Text
  environment : List (Text × Text)
  /-- The bound on its time, in milliseconds. -/
  limit : Option Nat
  program : Path
  arguments : List Text
  /-- Whether the process may leave a core if a signal ends it. -/
  keepsCores : Bool := false
  /-- Whether its end is forgotten. -/
  forgetsEnds : Bool := false

namespace Launch

open Shell (Script State)

/-- What the process is to run. -/
def invocation? (w : Launch) : Except FileError Shell.Invocation :=
  let name := Shell.ofText w.program
  if name.contains '\x00' || w.arguments.any (·.contains '\x00') then .error .zeroByteInCommand
  else if name = ['.'] || name = "..".toList then .error .permissionDenied
  else if !name.contains '/' && 255 < name.length then .error .nameTooLong
  else Shell.Invocation.find? w.files w.cwd name (w.arguments.map Shell.ofText)

/-- How deep commands may lie in one another. -/
def depth : Nat := 8000

/-- Runs a program in place of the process. -/
def become (i : Shell.Invocation) : Script Unit := do
  let self := Shell.evaluate depth
  Shell.setStatus (← Shell.runInvocation self (Shell.replacingShell self) Shell.maxCalls i)

def start (w : Launch) : State :=
  let bindings := w.environment.map fun v => (v.1, Shell.ofText v.2)
  { files := w.files
    cwd := w.cwd
    name := Shell.ofText w.program
    bindings
    exported := bindings.map Prod.fst
    limit := w.limit }

/-- Runs the process to its end. -/
def run (w : Launch) : Except FileError Process := do
  let i ← w.invocation?
  let (result, s) := (become i).run.run w.start
  let elapsed := max s.elapsed s.released
  let ending : Option Ending :=
    if w.limit.any (· ≤ elapsed) then none
    else match result with
      | .ok _ | .error (.leaves _) | .error (.skips _) => some (.exited s.status)
      | .error (.exits n) | .error (.returns n) | .error (.failed n) => some (.exited n)
      | .error (.killed n) => some (.killed n (w.keepsCores && Shell.Signal.leavesCore n))
      | .error .overdue => none
  let awaited : Except FileError (Option Ending) :=
    if w.forgetsEnds && ending.isSome then .error .noChild else .ok ending
  let stream (n : Nat) : Bytes := Shell.toBytes (Shell.Chunk.joined (s.streams.getD n []))
  return { ending := awaited, stdout := stream 0, stderr := stream 1, files := s.files, elapsed }

end Launch

end LiveLine
