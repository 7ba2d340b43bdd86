import LiveLine.Proofs.Histories
import LiveLine.Proofs.Parts

/-!
# What evaluations come to

An evaluation takes what the editor shows, and asks the runner for its cursor line or rejects that.
The history of an editor tells what the last one came to.

* `Snapshot.evaluation`: what the evaluation of a snapshot comes to.
* `Fire.evaluation`, `Sound.evaluation_fired`: an evaluation comes to what its snapshot says.
* `keeps_complete`: the completion of a run is no evaluation.
-/

namespace LiveLine

/-- What an evaluation of a cursor line comes to. -/
inductive Evaluation where
  | asked (request : Request)
  | rejected (line : Nat)
  deriving DecidableEq, Repr

def Happening.evaluation? : Happening → Option Evaluation
  | started _ request => some (.asked request)
  | rejected line => some (.rejected line)
  | _ => none

theorem Happening.reading_evaluation? : Happening.Reading evaluation? := by
  intro e he
  cases e <;> simp_all [isTelling, evaluation?]

/-- What the evaluation of a snapshot comes to. -/
def Snapshot.evaluation (w : Setup) (s : Snapshot) : Evaluation :=
  if w.evaluates s.cursorText then .asked (.through s.document.text s.cursor)
  else .rejected s.cursor

/-- The session is open and was not disposed. -/
def Life.IsOpen (l : Life) : Prop := ∃ s, l.session = some s ∧ s.disposed = false

namespace Host

section

variable {owner : Nat → EditorId} {w : Setup} {h h' : Host} {s : Session} {id : EditorId}
  {l l' : Life}

/-- An evaluation of an open session comes to what its snapshot says. -/
theorem Fire.evaluation (hFire : Fire w h h' s l l') (hDisposed : s.disposed = false) :
    l'.last? Happening.evaluation? = some (s.snapshot.evaluation w) ∧ Life.IsOpen l' := by
  cases hFire with
  | off hOff => exact absurd (hDisposed.symm.trans hOff) Bool.false_ne_true
  | started _ hLine =>
    refine ⟨?_, _, rfl, hDisposed⟩
    rw [Snapshot.evaluation, if_pos hLine]
    exact Life.last?_started Happening.reading_evaluation? w s h.started s.request
  | rejected _ hLine =>
    refine ⟨?_, _, rfl, hDisposed⟩
    rw [Snapshot.evaluation, if_neg (by simp [hLine])]
    exact Life.last?_rejected Happening.reading_evaluation? w s s.snapshot.cursor _

theorem Sound.evaluation_fired (hs : Sound owner h) (hf : h.session? id = some s)
    (hDisposed : s.disposed = false) (pre : List Happening) :
    ((((h.log s pre).put { s with timer := s.timer.cancel }).fire w id).part id).last?
        Happening.evaluation? = some (s.snapshot.evaluation w) ∧
      Life.IsOpen ((((h.log s pre).put { s with timer := s.timer.cancel }).fire w id).part id) := by
  obtain ⟨l', hFire, hPart⟩ := hs.part_fired (w := w) hf pre
  rw [hPart, Function.update_self]
  exact hFire.evaluation hDisposed

/-- A run that completes leaves the timer alone, and is no evaluation. -/
theorem keeps_complete (hl : l.session = some s) (issued : Nat) (f : Flight) :
    (∃ t, (l.complete w issued f).session = some t ∧ t.timer = s.timer ∧
      t.disposed = s.disposed) ∧
      (l.complete w issued f).last? Happening.evaluation? = l.last? Happening.evaluation? := by
  unfold Life.complete
  rw [hl]
  dsimp only
  split
  · refine ⟨⟨_, rfl, rfl, rfl⟩, ?_⟩
    exact Life.last?_hearing Happening.reading_evaluation? w issued s f
  · refine ⟨⟨s, hl, rfl, rfl⟩, ?_⟩
    exact Life.last?_finished f

end

end Host

end LiveLine
