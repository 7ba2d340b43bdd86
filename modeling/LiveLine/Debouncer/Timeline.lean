import LiveLine.Debouncer

/-!
# One debouncer in time

A timeline applies steps to a debouncer and keeps what happened. A timer fires at its due time
exactly, and one that is due at the end of a step has fired in that step.
-/

namespace LiveLine.Debouncer

variable {α : Type}

inductive Step (α : Type) where
  | schedule (label : α)
  | cancel
  /-- Lets time pass. -/
  | advance (time : Nat)
  /-- Drops the debouncer, with its pending timer, for a new one. -/
  | replace (delay : Nat)
  deriving Repr

inductive Mark (α : Type) where
  | scheduled (label : α)
  /-- A pending timer gave way to a newer one, or was cancelled. -/
  | superseded
  | fired (label : α) (time : Nat)
  /-- A pending timer went with its debouncer. -/
  | dropped
  deriving DecidableEq, Repr

/-- The state of a timeline; `marks` has the newest mark first. -/
structure Timeline (α : Type) where
  now : Nat := 0
  debouncer : Debouncer α
  marks : List (Mark α) := []
  deriving Repr

namespace Timeline

def start (delay : Nat) : Timeline α := { debouncer := { delay } }

/-- Marks that the pending timer, if there is one, ends as `m`. -/
def endPending (t : Timeline α) (m : Mark α) : Timeline α :=
  if t.debouncer.isPending then
    { t with debouncer := t.debouncer.cancel, marks := m :: t.marks }
  else t

/-- Fires the timer if it is due. -/
def settle (t : Timeline α) : Timeline α :=
  match t.debouncer.pending with
  | some (due, label) =>
    if due ≤ t.now then
      { t with debouncer := t.debouncer.cancel, marks := .fired label due :: t.marks }
    else t
  | none => t

/-- Applies a step, and fires what is due after it. -/
def step (t : Timeline α) : Step α → Timeline α
  | .schedule label =>
    let t := t.endPending .superseded
    settle { t with
      debouncer := t.debouncer.schedule t.now label
      marks := .scheduled label :: t.marks }
  | .cancel => t.endPending .superseded
  | .advance time => settle { t with now := t.now + time }
  | .replace delay => { t.endPending .dropped with debouncer := { delay } }

/-- What a step answers: cancelling tells whether a timer was pending. -/
def answer? (t : Timeline α) : Step α → Option Bool
  | .cancel => some t.debouncer.isPending
  | .schedule _ | .advance _ | .replace _ => none

def run (t : Timeline α) (steps : List (Step α)) : Timeline α := steps.foldl step t

end Timeline

end LiveLine.Debouncer
