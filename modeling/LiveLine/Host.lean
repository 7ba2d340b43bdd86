import LiveLine.Event
import LiveLine.Session

/-!
# The host

The host owns a session for each open editor and routes events to them. Timers and completions of
runs happen at their due times while time advances. The journal keeps all that happened.
-/

namespace LiveLine

/-- What a run will do: how long it takes and what it leaves behind. -/
structure RunPlan where
  latency : Nat
  result : RunResult
  deriving DecidableEq, Repr

/-- What a host is given and never changes. -/
structure Setup where
  debounce : Nat := 300
  colors : Colors := {}
  onSupersede : OverlapPolicy := .finish
  /-- Which cursor lines are evaluated. -/
  evaluates : Text → Bool
  /-- What each run will do, by its number and request. -/
  plan : RunNumber → Request → RunPlan
  /-- How the surface names the decorations that are applied to it, in order, counted from one. -/
  ids : Nat → Decoration.Id := fun n => n

/-- What became of an event. -/
inductive Routing where
  | scheduled
  | ignoredUnfocused
  | unknownEditor
  | focusChanged
  | disposed
  deriving DecidableEq, Repr

def Routing.name : Routing → Text
  | scheduled => "scheduled".toList
  | ignoredUnfocused => "ignored_unfocused".toList
  | unknownEditor => "unknown_editor".toList
  | focusChanged => "focus_changed".toList
  | disposed => "disposed".toList

/-- The state of a host. Sessions are in ascending order of their editors, one for each; flights
are in the order in which the runs started; the journal has the newest entry first. -/
structure Host where
  now : Nat := 0
  focused : Option EditorId := none
  sessions : List Session := []
  flights : List Flight := []
  /-- How many sessions were opened. -/
  opened : Nat := 0
  /-- How many runs were started. -/
  started : Nat := 0
  /-- How many decorations were applied to the surface. -/
  issued : Nat := 0
  journal : List Entry := []
  deriving Repr

namespace Host

def session? (h : Host) (id : EditorId) : Option Session := h.sessions.find? (·.editor = id)

/-- The session with a number, while the host has it. -/
def numbered? (h : Host) (number : Nat) : Option Session := h.sessions.find? (·.number = number)

def flight? (h : Host) (run : RunNumber) : Option Flight := h.flights.find? (·.run = run)

/-- Adds what happened to a session, in order, to the journal. -/
def log (h : Host) (s : Session) (events : List Happening) : Host :=
  { h with journal := (events.map s.entry).reverse ++ h.journal }

/-- Puts a session at the place of its editor, instead of the session that is there. -/
def insertSession (s : Session) : List Session → List Session
  | [] => [s]
  | t :: ts =>
    if s.editor < t.editor then s :: t :: ts
    else if s.editor = t.editor then s :: ts
    else t :: insertSession s ts

def put (h : Host) (s : Session) : Host := { h with sessions := insertSession s h.sessions }

def remove (h : Host) (id : EditorId) : Host :=
  { h with sessions := h.sessions.filter (·.editor ≠ id) }

/-- Takes a run out of the air. -/
def land (h : Host) (run : RunNumber) : Host :=
  { h with flights := h.flights.filter (·.run ≠ run) }

/-- The newest run of a session, while it is in flight. -/
def newestFlight? (h : Host) (s : Session) : Option RunNumber :=
  s.newest.filter fun run => (h.flight? run).isSome

/-- The entries for a timer that gives way. -/
def supersededBy (s : Session) : List Happening :=
  if s.timer.isPending then [.superseded] else []

/-- Restarts the settle period of a session. -/
def notify (h : Host) (id : EditorId) : Host :=
  match h.session? id with
  | none => h
  | some s =>
    if s.disposed then h
    else
      (h.log s (supersededBy s ++ [.scheduled])).put
        { s with phase := .pending, timer := s.timer.schedule h.now () }

/-- Drops the pending timer of a session. -/
def cancelTimer (h : Host) (id : EditorId) : Host :=
  match h.session? id with
  | none => h
  | some s => (h.log s (supersededBy s)).put { s with timer := s.timer.cancel }

/-- Starts a run for the cursor line of a session. -/
def start (w : Setup) (h : Host) (s : Session) : Host :=
  let request := Request.through s.snapshot.document.text s.snapshot.cursor
  let plan := w.plan h.started request
  let flight : Flight :=
    { run := h.started
      session := s.number
      editor := s.editor
      generation := s.generation
      request
      due := h.now + plan.latency
      result := plan.result }
  let h := h.log s [.started h.started request]
  { h with flights := h.flights ++ [flight], started := h.started + 1 }.put
    { s with phase := .running, newest := some flight.run }

/-- Clears what a session shows, because its cursor line is not evaluated. -/
def reject (w : Setup) (h : Host) (s : Session) : Host :=
  let line := s.snapshot.cursor
  let p := s.presenter.present s.snapshot.document h.issued (.clear line) w.ids
  let h := h.log s (.rejected line :: p.calls.map .called)
  { h with issued := p.issued }.put { s with phase := .idle, presenter := p.presenter }

/-- Aborts the run that a new evaluation of the session supersedes, under the cancel policy. -/
def supersede (w : Setup) (h : Host) (s : Session) : Host :=
  if w.onSupersede = .cancel then
    match h.newestFlight? s with
    | some run => (h.land run).log s [.cancelled run]
    | none => h
  else h

/-- Evaluates the cursor line of a session as its editor shows it now. -/
def fire (w : Setup) (h : Host) (id : EditorId) : Host :=
  match h.session? id with
  | none => h
  | some s =>
    if s.disposed then h
    else
      let h := h.supersede w s
      let s := { s with
        generation := s.generation + 1
        newest := if w.onSupersede = .cancel then none else s.newest }
      if w.evaluates s.snapshot.cursorText then h.start w s else h.reject w s

/-- The entries for an annotation after its calls to the surface. -/
def fateEntries (s : Session) (v : Verdict) (stale : Bool) (p : Presentation) : List Happening :=
  let a := v.note
  (match p.fate with
    | .shown => [.shown a (a.decorations s.snapshot.document).length]
    | .dropped => [.dropped a s.snapshot.document.lineCount]
    | .cleared => []) ++
    (v.alert.map fun message => .called (.alert message)).toList ++
    [.presented a (p.fate = .shown) stale]

/-- Presents the result of a run, against the document as the editor shows it now. -/
def presentResult (w : Setup) (h : Host) (s : Session) (f : Flight) : Host :=
  let stale : Bool := f.generation ≠ s.generation
  let v := Verdict.ofResult w.colors f.result f.request.targetLine
  let p := s.presenter.present s.snapshot.document h.issued v.note w.ids
  let h := h.log s
    (.judged v f.request.targetLine :: p.calls.map .called ++ fateEntries s v stale p)
  { h with issued := p.issued }.put { s with
    presenter := p.presenter
    phase := s.phaseAfter stale v.note.kind p.fate }

/-- Completes a run. Its result is ignored if its session is gone or disposed, or if a newer
evaluation superseded the run under the cancel policy. -/
def complete (w : Setup) (h : Host) (f : Flight) : Host :=
  let h := { h.land f.run with
    journal := ⟨f.session, f.editor, .finished f.run f.result⟩ :: h.journal }
  match h.numbered? f.session with
  | none => h
  | some s =>
    if s.disposed || (f.generation ≠ s.generation && w.onSupersede = .cancel) then h
    else h.presentResult w s f

/-- Lets go of what a session holds: its timer, its newest run and its decorations. -/
def release (h : Host) (s : Session) : Host :=
  let abort := h.newestFlight? s
  let h := h.log s (supersededBy s ++ (abort.map .aborted).toList ++
    s.presenter.clearCalls.map .called ++ [.disposed])
  match abort with
  | some run => h.land run
  | none => h

/-- Disposes the session of an editor and keeps it. -/
def dispose (h : Host) (id : EditorId) : Host :=
  match h.session? id with
  | none => h
  | some s => (h.release s).put s.closed

/-- Opens an editor; the first one is focused, and a session of the same editor is disposed. -/
def openEditor (w : Setup) (h : Host) (id : EditorId) (snapshot : Snapshot) : Host :=
  let s : Session :=
    { number := h.opened, editor := id, snapshot, timer := { delay := w.debounce } }
  let released := match h.session? id with
    | some previous => h.release previous
    | none => h
  { released.put s with
    opened := h.opened + 1
    focused := h.focused.or (some id) }.log s [.opened]

/-- Disposes the session of an editor and forgets it. -/
def close (h : Host) (id : EditorId) : Host :=
  match h.session? id with
  | none => h
  | some s =>
    { (h.release s).remove id with focused := if h.focused = some id then none else h.focused }

/-- Disposes every session, here in the order of the editors. Any other order leaves the same of
each session; only the entries of different sessions come in another order. -/
def shutdown (h : Host) : Host :=
  { h.sessions.foldl release h with sessions := [], focused := none }

/-- Changes what an editor shows, without any event. -/
def edit (h : Host) (id : EditorId) (text : Option Text) (cursor : Option Nat) : Host :=
  match h.session? id with
  | none => h
  | some s => h.put { s with snapshot :=
      { document := (text.map Document.mk).getD s.snapshot.document
        cursor := cursor.getD s.snapshot.cursor } }

/-- What becomes of an event. -/
def route (h : Host) (e : EditorEvent) : Routing :=
  if (h.session? e.editor).isNone then .unknownEditor
  else match e.kind with
    | .focused => .focusChanged
    | .closed => .disposed
    | .textChanged | .selectionChanged =>
      if h.focused = some e.editor then .scheduled else .ignoredUnfocused

/-- Handles an event as it is routed. -/
def handle (h : Host) (e : EditorEvent) : Host :=
  match h.route e with
  | .scheduled => h.notify e.editor
  | .focusChanged => { h with focused := some e.editor }
  | .disposed => h.close e.editor
  | .ignoredUnfocused | .unknownEditor => h

end Host

end LiveLine
