import LiveLine.Host

/-!
# The host in time

What is due happens in the order of due times. Every step of a script ends only when all that is
due by then has happened.
-/

namespace LiveLine

/-- Something that happens at a given time. -/
inductive Due where
  | timer (editor : EditorId)
  | completion (flight : Flight)
  deriving DecidableEq, Repr

namespace Host

/-- All that is due at some time: timers in the order of the editors, then completions in the
order in which the runs started. -/
def agenda (h : Host) : List (Nat × Due) :=
  h.sessions.filterMap (fun s => s.timer.due?.map fun time => (time, .timer s.editor)) ++
    h.flights.map fun f => (f.due, .completion f)

/-- The earliest item, and of several the first. -/
def earliest? : List (Nat × Due) → Option (Nat × Due)
  | [] => none
  | x :: xs => match earliest? xs with
    | none => some x
    | some y => if y.1 < x.1 then some y else some x

/-- What happens next, if it is due by `time`. -/
def next? (h : Host) (time : Nat) : Option (Nat × Due) :=
  (earliest? h.agenda).filter (·.1 ≤ time)

/-- Lets the timer of a session elapse. -/
def elapse (w : Setup) (h : Host) (id : EditorId) : Host :=
  match h.session? id with
  | none => h
  | some s => ((h.log s [.fired]).put { s with timer := s.timer.cancel }).fire w id

def perform (w : Setup) (h : Host) : Due → Host
  | .timer id => h.elapse w id
  | .completion f => h.complete w f

/-- How many due items can still happen without a further call: an elapsing timer may start a run,
and a completion starts nothing. -/
def workload (h : Host) : Nat :=
  2 * h.sessions.countP (·.timer.isPending) + h.flights.length

/-- Performs up to `limit` items that are due by `time`, each at its due time. -/
def performDue (w : Setup) (time : Nat) : Nat → Host → Host
  | 0, h => h
  | limit + 1, h => match h.next? time with
    | none => h
    | some (due, item) => performDue w time limit (perform w { h with now := due } item)

/-- Lets time pass until `time`. -/
def advanceTo (w : Setup) (h : Host) (time : Nat) : Host :=
  { performDue w time h.workload h with now := time }

/-- Performs what is due at the current time. -/
def settle (w : Setup) (h : Host) : Host := h.advanceTo w h.now

/-- Evaluates the cursor line at once, in place of a pending timer. -/
def begin (w : Setup) (h : Host) (id : EditorId) : Host := (h.cancelTimer id).fire w id

/-- Waits until a run is no longer in flight. -/
def await (w : Setup) (h : Host) (run : RunNumber) : Host :=
  match h.flight? run with
  | none => h.settle w
  | some f => h.advanceTo w (max h.now f.due)

/-- Evaluates the cursor line at once and waits for the run that it starts. -/
def evaluate (w : Setup) (h : Host) (id : EditorId) : Host := (h.begin w id).await w h.started

/-- A step of a script: a call to the host, a change of an editor, or the passing of time. -/
inductive Step where
  | openEditor (id : EditorId) (snapshot : Snapshot)
  | edit (id : EditorId) (text : Option Text) (cursor : Option Nat)
  | event (e : EditorEvent)
  | advance (time : Nat)
  | notify (id : EditorId)
  | evaluate (id : EditorId)
  | dispose (id : EditorId)
  | shutdown
  deriving Repr

/-- Takes a step, and settles. -/
def step (w : Setup) (h : Host) : Step → Host
  | .openEditor id snapshot => (h.openEditor w id snapshot).settle w
  | .edit id text cursor => (h.edit id text cursor).settle w
  | .event e => (h.handle e).settle w
  | .advance time => h.advanceTo w (h.now + time)
  | .notify id => (h.notify id).settle w
  | .evaluate id => h.evaluate w id
  | .dispose id => (h.dispose id).settle w
  | .shutdown => h.shutdown.settle w

def run (w : Setup) (h : Host) (steps : List Step) : Host := steps.foldl (step w) h

/-- What happened since an earlier state of the host, in order. -/
def since (h earlier : Host) : List Entry :=
  (h.journal.take (h.journal.length - earlier.journal.length)).reverse

/-- What the caller gets back from a step. -/
inductive Answer where
  | opened (id : EditorId)
  | routed (routing : Routing)
  /-- The editor has no session to do the step. -/
  | noSession
  | done
  deriving DecidableEq, Repr

def answer (h : Host) : Step → Answer
  | .openEditor id _ => .opened id
  | .event e => .routed (h.route e)
  | .notify id | .evaluate id | .dispose id => if (h.session? id).isNone then .noSession else .done
  | .edit .. | .advance _ | .shutdown => .done

/-- What can be seen of a step: its answer, what happened until it ended, and the state then. -/
structure Report where
  step : Step
  answer : Answer
  entries : List Entry
  host : Host
  deriving Repr

/-- Takes a step, and tells what can be seen of it. -/
def report (w : Setup) (h : Host) (step : Step) : Report :=
  let next := h.step w step
  ⟨step, h.answer step, next.since h, next⟩

/-- What can be seen of the steps of a script, in order. -/
def reports (w : Setup) (h : Host) : List Step → List Report
  | [] => []
  | step :: steps => h.report w step :: reports w (h.step w step) steps

end Host

end LiveLine
