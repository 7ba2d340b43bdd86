import LiveLine.Classifier
import LiveLine.Host.Time
import LiveLine.Log.Journal
import LiveLine.Script
import LiveLine.Terminal.Screen

/-!
# A script under evaluation

A host with a single editor, which is a script file. Its runs work on the files, its annotations
are drawn on a screen, and all that happens is logged. The script is read anew for every snapshot.
-/

namespace LiveLine

structure ScriptHost where
  around : Surroundings
  runner : Runner
  settings : Settings
  /-- The place of the script among the files. -/
  script : List Text
  /-- The line that the cursor is pinned to. -/
  pinned : Option Nat := none
  host : Host := {}
  screen : Screen
  /-- The newest record first. -/
  log : List Log.Record := []

namespace ScriptHost

/-- The editor of the script. -/
def editor : EditorId := 1

/-- The number of the process that runs snippets. -/
def pid : Nat := 4000

def note (s : ScriptHost) (records : List Log.Record) : ScriptHost :=
  { s with log := records.reverse ++ s.log }

/-- Replaces the files. -/
def withFiles (s : ScriptHost) (files : FileTree) : ScriptHost :=
  { s with around := { s.around with files } }

def content (s : ScriptHost) : Except FileError Bytes :=
  s.around.files.read? [] (Path.ofParts s.script)

def snapshot (s : ScriptHost) : Snapshot := Snapshot.ofFile s.content.toOption s.pinned

/-- The record of reading the script now. -/
def reading (s : ScriptHost) : Log.Record := Log.reading (Path.ofParts s.script) s.content

/-- Lets the editor show what the script holds now. -/
def refresh (s : ScriptHost) : ScriptHost :=
  let now := s.snapshot
  { s with host := s.host.edit editor (some now.document.text) (some now.cursor) }

/-- What the host is given, where a run does what `report` tells. -/
def setup (s : ScriptHost) (report : Option RunReport) : Setup :=
  { debounce := s.settings.debounceDelay
    colors := s.settings.colors
    onSupersede := s.settings.onSupersede
    evaluates := Classifier.evaluates {}
    plan := fun _ _ => match report with
      | some r => ⟨r.elapsed, r.result⟩
      | none => ⟨0, {}⟩ }

/-- Goes on to a later state of the host: what happened is drawn and logged. -/
def goOn (s : ScriptHost) (later : Host) : ScriptHost :=
  let es := later.since s.host
  { s.note (Log.entries s.reading es) with
    host := later
    screen := s.screen.drawAll ((surfaceCalls es).map Prod.snd) }

/-- Opens the script. -/
def start (s : ScriptHost) : ScriptHost :=
  s.goOn (s.host.openEditor (s.setup none) editor s.snapshot)

/-- Evaluates the cursor line in one of the ways of the host, and waits for the run that this
starts. The run works on the files as they are, and the result is shown on the script as it is
then. -/
def evaluateBy (s : ScriptHost) (begin : Setup → Host → Host) : ScriptHost :=
  let s := (s.note [s.reading]).refresh
  let now := s.snapshot
  let request := Request.through now.document.text now.cursor
  let report :=
    if Classifier.evaluates {} now.cursorText then some (s.runner.run s.around request) else none
  let w := s.setup report
  let run := s.host.started
  let s := s.goOn (begin w s.host)
  match report with
  | none => s
  | some r =>
    let s := ((s.note (r.marks.map (Log.mark pid))).withFiles r.files).refresh
    s.goOn (s.host.await w run)

/-- Evaluates the cursor line at once. -/
def evaluate (s : ScriptHost) : ScriptHost := s.evaluateBy fun w h => h.begin w editor

/-- Evaluates the cursor line when changes have settled, if a change is waiting. -/
def settle (s : ScriptHost) : ScriptHost :=
  match (s.host.session? editor).bind fun e => e.timer.due? with
  | none => s
  | some due => s.evaluateBy fun w h => Host.elapse w { h with now := max h.now due } editor

/-- Handles an event. -/
def handle (s : ScriptHost) (e : EditorEvent) : ScriptHost := s.goOn (s.host.handle e)

/-- Closes the script and logs what happened altogether. -/
def finish (s : ScriptHost) (reason : String) (channelFailures : Nat) : ScriptHost :=
  let reasonField := ("reason", Log.quoted reason.toList)
  let stage (name : String) : Log.Record := Log.record .info "runtime.shutdown" "shutdown_stage"
    [reasonField, ("stage", Log.quoted name.toList)]
  let s := s.note [stage "begin",
    Log.record .trace "runtime.shutdown" "dropping_runtime_sender" [reasonField]]
  let s := s.goOn s.host.shutdown
  s.note [Log.telemetry (Telemetry.ofEntries s.host.journal) channelFailures, stage "complete"]

end ScriptHost

end LiveLine
