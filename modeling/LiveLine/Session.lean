import LiveLine.Debouncer
import LiveLine.Presenter
import LiveLine.Settings
import LiveLine.Snippet

/-!
# Sessions

A session watches one open editor: it waits until changes settle, has the cursor line evaluated,
and keeps what is shown.
-/

namespace LiveLine

inductive Phase where
  | idle
  | pending
  | running
  | annotatedOutput
  | annotatedError
  deriving DecidableEq, Repr

namespace Phase

def name : Phase → Text
  | idle => "idle".toList
  | pending => "pending".toList
  | running => "running".toList
  | annotatedOutput => "annotated_output".toList
  | annotatedError => "annotated_error".toList

/-- Whether neither a timer nor a run is awaited. -/
def isSettled : Phase → Bool
  | pending | running => false
  | idle | annotatedOutput | annotatedError => true

/-- The phase after an annotation of a kind was handed to the presenter. -/
def ofFate : Annotation.Kind → Fate → Phase
  | .error, .shown => annotatedError
  | _, .shown => annotatedOutput
  | _, _ => idle

end Phase

/-- Runs are numbered in the order in which they start, over all sessions. -/
abbrev RunNumber := Nat

/-- The state of one open editor. -/
structure Session where
  /-- The place in the order in which sessions were opened. -/
  number : Nat
  editor : EditorId
  /-- What the editor shows now. -/
  snapshot : Snapshot
  timer : Debouncer Unit
  phase : Phase := .idle
  presenter : Presenter := {}
  /-- The run that the session can abort: the newest one that it started. -/
  newest : Option RunNumber := none
  /-- How often the session has evaluated its line. -/
  generation : Nat := 0
  disposed : Bool := false
  deriving DecidableEq, Repr

namespace Session

/-- The session with its timer, its annotations and its handle on a run let go for good. -/
def closed (s : Session) : Session :=
  { s with
    timer := s.timer.cancel
    phase := .idle
    presenter := {}
    newest := none
    disposed := true }

/-- The phase after a completed run was presented. Only the newest run ends the running phase, and
an older one shows up in the phase only while nothing newer is awaited. -/
def phaseAfter (s : Session) (stale : Bool) (kind : Annotation.Kind) (fate : Fate) : Phase :=
  if (!stale && s.phase = .running) || (stale && s.phase.isSettled && fate = .shown) then
    Phase.ofFate kind fate
  else s.phase

end Session

/-- A run that has started and whose result is not ready yet. -/
structure Flight where
  run : RunNumber
  /-- The number of the session that started the run. -/
  session : Nat
  editor : EditorId
  generation : Nat
  request : Request
  /-- When the result is ready. -/
  due : Nat
  result : RunResult
  deriving DecidableEq, Repr

/-- Something that happened to a session. -/
inductive Happening where
  | opened
  | scheduled
  | superseded
  | fired
  /-- A newer evaluation aborted a run. -/
  | cancelled (run : RunNumber)
  | rejected (line : Nat)
  | started (run : RunNumber) (request : Request)
  | finished (run : RunNumber) (result : RunResult)
  /-- The result of a run was judged, for a request from line `fallback`. -/
  | judged (verdict : Verdict) (fallback : Nat)
  | called (call : SurfaceCall)
  | shown (note : Annotation) (decorations : Nat)
  | dropped (note : Annotation) (lineCount : Nat)
  | presented (note : Annotation) (shown stale : Bool)
  /-- Disposal aborted a run. -/
  | aborted (run : RunNumber)
  | disposed
  deriving DecidableEq, Repr

/-- A happening and the session that it happened to. -/
structure Entry where
  session : Nat
  editor : EditorId
  event : Happening
  deriving DecidableEq, Repr

def Session.entry (s : Session) (h : Happening) : Entry := ⟨s.number, s.editor, h⟩

/-- How often what the counters count has happened. -/
structure Telemetry where
  scheduled : Nat := 0
  superseded : Nat := 0
  fired : Nat := 0
  started : Nat := 0
  cancelled : Nat := 0
  dropped : Nat := 0
  deriving DecidableEq, Repr

/-- The telemetry of a list of entries. -/
def Telemetry.ofEntries (entries : List Entry) : Telemetry :=
  let count (p : Happening → Bool) : Nat := entries.countP fun e => p e.event
  { scheduled := count (· matches .scheduled)
    superseded := count (· matches .superseded)
    fired := count (· matches .fired)
    started := count (· matches .started ..)
    cancelled := count (· matches .cancelled _)
    dropped := count (· matches .dropped ..) }

/-- The calls to the surface among the entries, with the editor of each. -/
def surfaceCalls (entries : List Entry) : List (EditorId × SurfaceCall) :=
  entries.filterMap fun e => match e.event with
    | .called call => some (e.editor, call)
    | _ => none

end LiveLine
