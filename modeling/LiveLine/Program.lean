import LiveLine.CommandLine
import LiveLine.FileWatch
import LiveLine.Log.Filter
import LiveLine.ScriptHost

/-!
# The program

What the program does for its arguments on some files: it evaluates a script once, or again after
every save. What it writes, its status and its log are the answer.
-/

namespace LiveLine

/-- What is left when the program has ended. -/
structure Answer where
  status : Nat
  out : Text := []
  err : Text := []
  /-- The records, of which a filter leaves those that are written. -/
  log : List Log.Record := []
  files : FileTree

/-- The answer when the log goes through a filter, whose ill-formed directives come first on the
error stream. -/
def Answer.through (a : Answer) (filter : Text) : Answer :=
  { a with
    err := Log.Filter.complaints filter ++ a.err
    log := a.log.filter (Log.Filter.read filter).passes }

namespace Program

/-- The file that the log is written to. -/
def logFile : Path := "oxlive.log".toList

/-- The directory that is searched for a virtual environment: the one of the script. -/
def root (script : Path) : Path := script.directory

/-- The files with an empty log. -/
def withLog (around : Surroundings) : Surroundings :=
  { around with files := (around.files.write? around.cwd logFile []).toOption.getD around.files }

def startup : Log.Record := Log.record .info "runtime" "startup" []

/-- The record of the arguments, when everything is ready. -/
def ready (a : Arguments) : Log.Record :=
  Log.record .info "runtime.startup" "bootstrap_complete"
    [("script", a.script), ("line", Log.optional a.line), ("watch", Log.flag a.watch),
      ("config_override", Log.flag a.config.isSome)]

/-- The script opened for evaluation, or the records up to the point where it is not found. -/
def openScript (around : Surroundings) (a : Arguments) :
    Except (List Log.Record) ScriptHost :=
  let path := a.config.getD (Configuration.discover around)
  let content := (around.read? path).toOption
  let configuration := Configuration.ofFile content
  let runner := Runner.ofSettings configuration.settings around (some (root a.script))
  let records := [startup] ++
    (if Configuration.isIllFormed content then [Log.illFormed path] else []) ++
    [Log.settings configuration runner.interpreter, ready a]
  match (around.files.find? around.cwd a.script).toOption with
  | some place =>
    if place ≠ Shell.nullDevice && (around.files.node? place).any fun n => !n.isDirectory then
      let s : ScriptHost := {
        around
        runner
        settings := configuration.settings
        script := place
        pinned := a.line
        screen := { label := place.getLastD "script".toList }
        log := records.reverse }
      .ok s.start
    else .error records
  | none => .error records

/-- The answer that a script is not found. -/
def notFound (around : Surroundings) (a : Arguments) (records : List Log.Record) : Answer :=
  { status := 1
    err := "Error: script not found: ".toList ++ a.script ++ ['\n']
    log := records
    files := around.files }

/-- The answer of a script host that has finished. -/
def answer (s : ScriptHost) : Answer :=
  { status := 0, out := s.screen.out, err := s.screen.err, log := s.log.reverse
    files := s.around.files }

/-- Evaluates a script once. -/
def evaluateOnce (around : Surroundings) (a : Arguments) : Answer :=
  match openScript around a with
  | .error records => notFound around a records
  | .ok s => answer (s.evaluate.finish "one_shot" 0)

/-- What a step on the files sends through a channel to the event loop. -/
def send (w : FileWatch) (t : FileTree) (cwd : List Text) (channel : Channel) (step : FileStep) :
    Channel :=
  (List.replicate (w.reports t cwd step) w.event).foldl Channel.offer channel

/-- Handles the events in a channel, in order. -/
def handleAll (s : ScriptHost) (events : List Event) : ScriptHost :=
  events.foldl (fun s e => match e with
    | .editor e => s.handle e
    | .shutdown => s) s

/-- Takes a step on the files, handles what the watch reports, and evaluates when that settled. -/
def afterStep (w : FileWatch) (s : ScriptHost) (step : FileStep) : FileWatch × ScriptHost :=
  let around := s.around
  let channel := send w around.files around.cwd { capacity := Channel.defaultCapacity } step
  let s := s.withFiles (step.perform around.files around.cwd)
  (w.follow around.files around.cwd step, (handleAll s channel.queue).settle)

/-- Evaluates a script, and again after every step that concerns it, until the user ends this. -/
def evaluateWatching (around : Surroundings) (a : Arguments) (steps : List FileStep) : Answer :=
  match openScript around a with
  | .error records => notFound around a records
  | .ok s =>
    let s := s.evaluate
    let s := match FileWatch.start? s.around.files [] (Path.ofParts s.script) ScriptHost.editor with
      | some w => (steps.foldl (fun (w, s) step => afterStep w s step) (w, s)).2
      | none => s
    answer (s.finish "shutdown_event" 0)

/-- What the program does for its arguments; `steps` are what is done to the files while it
watches the script. -/
def answerTo (around : Surroundings) (args : List Text) (steps : List FileStep) : Answer :=
  match Arguments.read args with
  | .misuse =>
    { status := 2, err := Arguments.usage ++ ['\n'], log := [startup], files := around.files }
  | .version =>
    { status := 0, out := Arguments.version ++ ['\n'], log := [startup], files := around.files }
  | .help =>
    { status := 0
      out := Arguments.description.flatMap (· ++ ['\n'])
      log := [startup]
      files := around.files }
  | .evaluate a =>
    if a.watch then evaluateWatching around a steps else evaluateOnce around a

/-- Runs the program with a filter for its log. -/
def run (around : Surroundings) (filter : Text) (args : List Text) (steps : List FileStep) :
    Answer :=
  (answerTo (withLog around) args steps).through filter

end Program

end LiveLine
