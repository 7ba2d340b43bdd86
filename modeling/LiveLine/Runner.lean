import LiveLine.Process
import LiveLine.RunFailure
import LiveLine.Settings.Discovery
import LiveLine.Snippet
import LiveLine.Text.Blank

/-!
# Running snippets

A snippet is written to the scratch file, the interpreter runs that file, and the file is removed.
Whatever goes wrong becomes the failure text of the result.
-/

namespace LiveLine

structure Runner where
  interpreter : Path
  scratchPath : Path
  /-- The bound on each run, in milliseconds. -/
  timeout : Option Nat := none
  deriving DecidableEq, Repr

/-- What is known of a run while it goes on. -/
inductive RunMark where
  | writeFailed (path : Path)
  | spawned
  | completed (line : Nat) (code : Option Nat) (stdoutLength stderrLength elapsed : Nat)
  | failed (line : Nat) (error : RunFailure) (elapsed : Nat)
  | removeFailed (error : FileError)
  deriving DecidableEq, Repr

namespace Runner

/-- What became of a run: it failed at some stage, or the interpreter ended in time. -/
inductive Outcome where
  | failed (error : RunFailure)
  | ended (ending : Ending) (stdout stderr : Bytes)
  deriving DecidableEq, Repr

namespace Outcome

/-- The result of a run. An interpreter that ends without success fails with what it wrote on the
error stream, or with its status if that is blank. -/
def result : Outcome → RunResult
  | failed error => error.result
  | ended ending stdout stderr =>
    let stdout := Utf8.decodeLossy stdout
    let stderr := Utf8.decodeLossy stderr
    if ending.isSuccess then { stdout, stderr }
    else
      let message :=
        if stderr.trim.isEmpty then "interpreter exited with ".toList ++ ending.description
        else stderr
      { stdout, stderr, failure := some (RunFailure.exit message).message }

/-- Whether the interpreter was started. -/
def wasLaunched : Outcome → Bool
  | failed (.write _) | failed (.launch ..) => false
  | failed _ | ended .. => true

/-- The mark of the end of a run. -/
def mark (line elapsed : Nat) : Outcome → RunMark
  | failed error => .failed line error elapsed
  | ended ending stdout stderr =>
    .completed line ending.code? (Utf8.decodeLossy stdout).byteLength
      (Utf8.decodeLossy stderr).byteLength elapsed

end Outcome

end Runner

/-- A run that is over: what became of it, what was marked, the files then and the time it took. -/
structure RunReport where
  outcome : Runner.Outcome
  marks : List RunMark
  files : FileTree
  elapsed : Nat := 0

def RunReport.result (r : RunReport) : RunResult := r.outcome.result

namespace Runner

/-- The runner for scripts in `root`. -/
def ofSettings (s : Settings) (around : Surroundings) (root : Option Path) : Runner :=
  { interpreter := s.interpreter around root
    scratchPath := s.scratchPath around
    timeout := s.runTimeout? }

/-- The variables that the interpreter is given. -/
def environment (around : Surroundings) : List (Text × Text) :=
  [("PYTHONIOENCODING".toList, "utf-8".toList), ("PATH".toList, "/usr/bin:/bin".toList),
    ("PWD".toList, Path.ofParts around.cwd)] ++
    (around.home.map fun h => ("HOME".toList, h)).toList ++ around.inherited

/-- Writes the snippet of a request to the scratch file. -/
def save (r : Runner) (around : Surroundings) (request : Request) (files : FileTree) :
    Except FileError FileTree :=
  files.write? around.cwd r.scratchPath (Utf8.encode request.source)

/-- The interpreter started on the scratch file. -/
def launch (r : Runner) (around : Surroundings) (files : FileTree) : Launch where
  files
  cwd := around.cwd
  environment := environment around
  limit := r.timeout
  program := r.interpreter
  arguments := [r.scratchPath]
  keepsCores := around.keepsCores
  forgetsEnds := around.forgetsEnds

/-- Starts the interpreter on the scratch file and waits for its end. -/
def invoke (r : Runner) (around : Surroundings) (files : FileTree) : Outcome × FileTree × Nat :=
  match (r.launch around files).run with
  | .error e => (.failed (.launch r.interpreter e.message), files, 0)
  | .ok p => match p.ending with
    | .error e => (.failed (.wait e.message), p.files, p.elapsed)
    | .ok none =>
      let elapsed := r.timeout.getD p.elapsed
      (.failed (.timeout (1000 * elapsed)), p.files, elapsed)
    | .ok (some ending) => (.ended ending p.stdout p.stderr, p.files, p.elapsed)

/-- Removes the scratch file. -/
def cleanUp (r : Runner) (around : Surroundings) (files : FileTree) : Except FileError FileTree :=
  files.remove? around.cwd r.scratchPath

/-- Runs the snippet of a request. The scratch file is removed before the end is marked. -/
def run (r : Runner) (around : Surroundings) (request : Request) : RunReport :=
  match r.save around request around.files with
  | .error e =>
    { outcome := .failed (.write e.message)
      marks := [.writeFailed r.scratchPath]
      files := around.files }
  | .ok files =>
    let (outcome, files, elapsed) := r.invoke around files
    let (files, removal) := match r.cleanUp around files with
      | .ok files => (files, [])
      | .error e => (files, [RunMark.removeFailed e])
    let start : List RunMark := if outcome.wasLaunched then [.spawned] else []
    { outcome
      marks := start ++ removal ++ [outcome.mark request.targetLine elapsed]
      files
      elapsed }

variable {r : Runner} {around : Surroundings} {request : Request} {files : FileTree}

theorem run_of_save_error {e : FileError}
    (hSave : r.save around request around.files = .error e) :
    r.run around request = {
      outcome := .failed (.write e.message)
      marks := [.writeFailed r.scratchPath]
      files := around.files } := by
  rw [run, hSave]

theorem outcome_run_of_save (hSave : r.save around request around.files = .ok files) :
    (r.run around request).outcome = (r.invoke around files).1 := by
  rw [run, hSave]

end Runner

end LiveLine
