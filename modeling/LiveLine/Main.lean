import LiveLine.Program

/-!
# Running the program

The outer layer: it gathers the files that an evaluation can touch, runs the program on them, and
writes what the program answers.
-/

namespace LiveLine.Main

/-- The content of a file, if it can be read. -/
def load? (p : String) : IO (Option Bytes) := do
  try
    return some (← IO.FS.readBinFile p).toList
  catch _ =>
    return none

/-- A variable of the environment, as a text. -/
def setting? (name : String) : IO (Option Text) := do
  return (← IO.getEnv name).map String.toList

/-- The variable that holds the filter for the log. -/
def filterName : String := "OXLIVE_LOG"

/-- Adds the file at a path to a tree, if it is there. -/
def gather (cwd : List Text) (executable : Bool) (t : FileTree) (p : Path) : IO FileTree := do
  match ← load? (String.ofList p) with
  | none => return t
  | some content =>
    let place := if p.isAbsolute then p.parts else cwd ++ p.parts
    return t.plant place (.file content executable)

/-- The directories and devices that are always there. -/
def system (cwd : List Text) : FileTree :=
  let t := ["tmp", "usr/bin", "bin", "dev"].foldl (fun (t : FileTree) p =>
    t.makeDirectories (Path.parts p.toList)) (FileTree.makeDirectories {} cwd)
  Shell.devices.foldl (fun t place => t.put place (.file [] false)) t

/-- The files that a call of the program can touch. -/
def surroundings (request : Arguments.Request) : IO Surroundings := do
  let cwd := Path.parts (← IO.currentDir).toString.toList
  let home ← setting? "HOME"
  let configHome ← setting? "XDG_CONFIG_HOME"
  let temporary := (← setting? "TMPDIR").getD "/tmp".toList
  let others ← ["TMPDIR", "XDG_CONFIG_HOME", filterName].filterMapM fun name => do
    return (← setting? name).map fun value => (name.toList, value)
  let bare : Surroundings :=
    { files := system cwd, cwd, home, configHome, temporary, inherited := others }
  match request with
  | .evaluate a =>
    let configs := [Configuration.fileName] ++ a.config.toList ++
      (bare.configDirectory?.map fun d =>
        Path.under Configuration.fileName (Path.under "oxlive".toList d)).toList
    let files ← (a.script :: configs).foldlM (gather cwd false) bare.files
    let settings := (Configuration.load { bare with files } a.config).settings
    let programs := [Settings.virtualInterpreter (Program.root a.script),
      settings.configuredInterpreter]
    let files ← (programs.filter (·.contains '/')).foldlM (gather cwd true) files
    return { bare with files }
  | _ => return bare

/-- Writes what a screen holds. -/
def display (out err : Text) : IO Unit := do
  let stdout ← IO.getStdout
  stdout.putStr (String.ofList out)
  stdout.flush
  let stderr ← IO.getStderr
  stderr.putStr (String.ofList err)
  stderr.flush

/-- The filter of the environment. -/
def logFilter : IO Text := do return (← setting? filterName).getD []

/-- Writes the records that are left of the log. -/
def writeLog (records : List Log.Record) : IO Unit := do
  let lines := records.flatMap fun r => r.line ++ ['\n']
  try
    IO.FS.writeFile (String.ofList Program.logFile) (String.ofList lines)
  catch _ =>
    return ()

/-- Evaluates the script again whenever its content has changed. -/
partial def watch (w : FileWatch) (path : Path) (s : ScriptHost) (seen : Option Bytes) :
    IO Unit := do
  IO.sleep 50
  let now ← load? (String.ofList path)
  match now with
  | some content =>
    if now = seen then watch w path s seen
    else
      let s := { s with screen := { s.screen with out := [], err := [] } }
      let (w, s) := Program.afterStep w s (.write (Path.ofParts s.script) content)
      display s.screen.out s.screen.err
      watch w path s now
  | none => watch w path s seen

/-- Evaluates a script and goes on watching it. -/
def runWatching (around : Surroundings) (a : Arguments) : IO UInt32 := do
  match Program.openScript (Program.withLog around) a with
  | .error records =>
    let answer := (Program.notFound around a records).through (← logFilter)
    display answer.out answer.err
    writeLog answer.log
    return 1
  | .ok s =>
    let s := s.evaluate
    display s.screen.out (Log.Filter.complaints (← logFilter) ++ s.screen.err)
    match FileWatch.start? s.around.files [] (Path.ofParts s.script) ScriptHost.editor with
    | some w => watch w a.script s s.content.toOption
    | none => pure ()
    return 0

/-- Runs the program on its arguments. -/
def run (args : List String) : IO UInt32 := do
  let texts := args.map String.toList
  let request := Arguments.read texts
  let around ← surroundings request
  match request with
  | .evaluate a => if a.watch then return ← runWatching around a
  | _ => pure ()
  let answer := Program.run around (← logFilter) texts []
  display answer.out answer.err
  writeLog answer.log
  return UInt32.ofNat answer.status

end LiveLine.Main

def main (args : List String) : IO UInt32 := LiveLine.Main.run args
